import PageGraph.Proofs.Build.Found
import PageGraph.Proofs.Text.Quoting

namespace PageGraph

namespace Text

theorem isBlank_of_mem_wordsFrom {word cs w : List Char} (hword : ∀ c ∈ word, isBlank c = false)
    (hw : w ∈ wordsFrom word cs) : ∀ c ∈ w, isBlank c = false := by
  induction cs generalizing word with
  | nil =>
    rw [wordsFrom] at hw
    split at hw
    · simp at hw
    · rw [List.mem_singleton.mp hw]
      exact fun c hc => hword c (List.mem_reverse.mp hc)
  | cons d cs ih =>
    rw [wordsFrom] at hw
    split at hw
    · split at hw
      · exact ih (by simp) hw
      · rcases List.mem_cons.mp hw with rfl | hw
        · exact fun c hc => hword c (List.mem_reverse.mp hc)
        · exact ih (by simp) hw
    · next hd =>
      refine ih (fun c hc => ?_) hw
      rcases List.mem_cons.mp hc with rfl | hc
      · exact Bool.eq_false_iff.mpr hd
      · exact hword c hc

theorem isBlank_of_mem_words {s w : String} (hw : w ∈ words s) :
    ∀ c ∈ w.toList, isBlank c = false := by
  obtain ⟨cs, hcs, rfl⟩ := List.mem_map.mp hw
  rw [String.toList_ofList]
  exact isBlank_of_mem_wordsFrom (by simp) hcs

end Text

theorem Markup.Content.isBlank_of_mem_classes (c : Content) {w : String} (hw : w ∈ c.classes) :
    ∀ d ∈ w.toList, Text.isBlank d = false := by
  cases c with
  | comment s => simp [classes] at hw
  | text s => simp [classes] at hw
  | element tag attributes children =>
    rw [classes, Sprout.classesOf] at hw
    cases hclass : attributes.lookup "class" with
    | none => simp [hclass] at hw
    | some value =>
      rw [hclass] at hw
      exact Text.isBlank_of_mem_words hw

theorem append_cons_inj_of_notMem_right {α : Type} {a : α} {as bs cs ds : List α} (hbs : a ∉ bs)
    (hds : a ∉ ds) (h : as ++ a :: bs = cs ++ a :: ds) : as = cs ∧ bs = ds := by
  have hmid {mid bs ds : List α} (hbs : a ∉ bs) (h : a :: bs = mid ++ a :: ds) :
      mid = [] ∧ bs = ds := by
    cases mid with
    | nil => exact ⟨rfl, (List.cons.inj h).2⟩
    | cons m mid =>
      rw [(List.cons.inj h).2] at hbs
      exact absurd (List.mem_append_right _ List.mem_cons_self) hbs
  rcases List.append_eq_append_iff.mp h with ⟨mid, hcs, hrest⟩ | ⟨mid, has, hrest⟩
  · obtain ⟨rfl, hsame⟩ := hmid hbs hrest
    exact ⟨by rw [hcs, List.append_nil], hsame⟩
  · obtain ⟨rfl, hsame⟩ := hmid hds hrest
    exact ⟨by rw [has, List.append_nil], hsame.symm⟩

theorem nodeName_inj {tag tag' : String} {count count' : Nat} {classes classes' : List String}
    (hclasses : ∀ w ∈ classes, ∀ c ∈ w.toList, Text.isBlank c = false)
    (hclasses' : ∀ w ∈ classes', ∀ c ∈ w.toList, Text.isBlank c = false)
    (h : nodeName tag count classes = nodeName tag' count' classes') :
    tag = tag' ∧ count = count' ∧ classes = classes' := by
  have hchars (tag : String) (count : Nat) (classes : List String) :
      (nodeName tag count classes).toList =
        (tag.toList ++ '_' :: Nat.toDigits 10 count ++ ['_']) ++
          (Text.quoteList classes).toList := by
    simp [nodeName]
  have hlist := congrArg String.toList h
  rw [hchars, hchars] at hlist
  obtain ⟨hfront, hsame⟩ := Text.append_quoteList_inj hclasses hclasses' hlist
  obtain ⟨htag, hcount⟩ := append_cons_inj_of_notMem_right Nat.underscore_not_in_toDigits
    Nat.underscore_not_in_toDigits (List.append_cancel_right hfront)
  refine ⟨String.toList_injective htag, ?_, hsame⟩
  have hvalue := congrArg (Nat.ofDigitChars 10 · 0) hcount
  simpa only [Nat.ofDigitChars_ten_toDigits] using hvalue

def nameNumber (name : String) : Nat :=
  (Sha256.digestText name).foldl (fun n b => n * 256 + b.toNat) 0

def eightDigits (n : Nat) : List Char :=
  List.replicate (8 - (Nat.toDigits 10 n).length) '0' ++ Nat.toDigits 10 n

theorem length_eightDigits {n : Nat} (hn : n < 100000000) : (eightDigits n).length = 8 := by
  have hlength : (Nat.toDigits 10 n).length ≤ 8 :=
    (Nat.length_toDigits_le_iff (by decide) (by decide)).mpr hn
  rw [eightDigits, List.length_append, List.length_replicate]
  omega

theorem eightDigits_inj {m n : Nat} (h : eightDigits m = eightDigits n) : m = n := by
  have hvalue (n : Nat) : Nat.ofDigitChars 10 (eightDigits n) 0 = n := by
    rw [eightDigits, Nat.ofDigitChars_append, Nat.ofDigitChars_replicate_zero, Nat.mul_zero,
      Nat.ofDigitChars_ten_toDigits]
  rw [← hvalue m, h, hvalue]

theorem foldl_mod (m : Nat) (bytes : List UInt8) (n : Nat) :
    bytes.foldl (fun n b => (n * 256 + b.toNat) % m) (n % m) =
      bytes.foldl (fun n b => n * 256 + b.toNat) n % m := by
  induction bytes generalizing n with
  | nil => rfl
  | cons b bytes ih =>
    have hstep : (n % m * 256 + b.toNat) % m = (n * 256 + b.toNat) % m := by
      rw [Nat.add_mod, Nat.mod_mul_mod, ← Nat.add_mod]
    rw [List.foldl_cons, List.foldl_cons, hstep, ih]

theorem toList_nameDigits (name : String) :
    (nameDigits name).toList = eightDigits (nameNumber name % 100000000) := by
  have hnumber := foldl_mod 100000000 (Sha256.digestText name) 0
  rw [Nat.zero_mod] at hnumber
  rw [nameDigits, String.toList_ofList, hnumber]
  rfl

theorem id_eq_iff (tag tag' name name' : String) :
    tag ++ "_" ++ nameDigits name = tag' ++ "_" ++ nameDigits name' ↔
      tag = tag' ∧ nameNumber name % 10 ^ 8 = nameNumber name' % 10 ^ 8 := by
  have hlength (name : String) : (nameDigits name).toList.length = 8 := by
    rw [toList_nameDigits]
    exact length_eightDigits (Nat.mod_lt _ (by decide))
  constructor
  · intro h
    have hlist := congrArg String.toList h
    simp only [String.toList_append] at hlist
    obtain ⟨hfront, hdigits⟩ :=
      List.append_inj' hlist ((hlength name).trans (hlength name').symm)
    rw [toList_nameDigits, toList_nameDigits] at hdigits
    exact ⟨String.toList_injective (List.append_cancel_right hfront), eightDigits_inj hdigits⟩
  · rintro ⟨rfl, hnumber⟩
    have hdigits : nameDigits name = nameDigits name' := by
      apply String.toList_injective
      rw [toList_nameDigits, toList_nameDigits]
      exact congrArg eightDigits hnumber
    rw [hdigits]

namespace Found

theorem mem_nodes {found : List Found} {n : Node} (hn : n ∈ nodes found) :
    ∃ (i : Nat) (f : Found), found[i]? = some f ∧ n = f.node (found.take i) := by
  obtain ⟨i, hi⟩ := List.getElem?_of_mem hn
  rw [getElem?_nodes] at hi
  obtain ⟨f, hf, rfl⟩ := Option.map_eq_some_iff.mp hi
  exact ⟨i, f, hf, rfl⟩

theorem eq_take_cons_drop {found : List Found} {i : Nat} {f : Found} (hf : found[i]? = some f) :
    found = found.take i ++ f :: found.drop (i + 1) := by
  obtain ⟨hi, rfl⟩ := List.getElem?_eq_some_iff.mp hf
  rw [← List.drop_eq_getElem_cons hi, List.take_append_drop]

theorem name_ne_of_mem_nodes {before : List Found} {m : Node} (hm : m ∈ nodes before) (f : Found) :
    m.name ≠ (f.node before).name := by
  obtain ⟨i, g, hg, rfl⟩ := mem_nodes hm
  intro hname
  obtain ⟨htag, hcount, _⟩ := nodeName_inj (fun _ => g.content.isBlank_of_mem_classes)
    (fun _ => f.content.isBlank_of_mem_classes) hname
  -- The earlier node is one of those with the tag that are counted for the later one.
  have hmore := congrArg (List.countP (·.content.tag = f.content.tag)) (eq_take_cons_drop hg)
  rw [List.countP_append, List.countP_cons] at hmore
  simp only [htag, decide_true, if_true] at hmore hcount
  omega

theorem nodup_names (found : List Found) : ((nodes found).map (·.name)).Nodup := by
  induction found using List.reverseRecOn with
  | nil => exact List.nodup_nil
  | append_singleton found f ih =>
    rw [nodes_concat, List.map_append, List.map_singleton, ← List.concat_eq_append,
      List.nodup_concat]
    refine ⟨?_, ih⟩
    intro hin
    obtain ⟨m, hm, hname⟩ := List.mem_map.mp hin
    exact name_ne_of_mem_nodes hm f hname

theorem nodup_ids_iff (found : List Found) : (ids found).Nodup ↔
    (nodes found).Pairwise fun m n =>
      m.tag = n.tag → nameNumber m.name % 10 ^ 8 ≠ nameNumber n.name % 10 ^ 8 := by
  rw [ids, List.Nodup, List.pairwise_map]
  apply List.Pairwise.iff_of_mem
  intro m n hm hn
  obtain ⟨_, _, _, rfl⟩ := mem_nodes hm
  obtain ⟨_, _, _, rfl⟩ := mem_nodes hn
  exact (id_eq_iff _ _ _ _).not.trans not_and

end Found

end PageGraph
