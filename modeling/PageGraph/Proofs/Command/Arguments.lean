import Mathlib.Data.List.Induction
import PageGraph.Command.Line
import PageGraph.Proofs.Except

namespace PageGraph.Command

inductive Item where
  | positional (text : String)
  | pair (flag value : String)
  deriving DecidableEq, Repr

namespace Item

def words : Item → List String
  | positional text => [text]
  | pair flag value => [flag, value]

def Fits (known : List String) : Item → Prop
  | positional text => isFlag text = false
  | pair flag _ => flag ∈ known

instance (known : List String) : DecidablePred (Fits known)
  | positional text => inferInstanceAs (Decidable (isFlag text = false))
  | pair flag _ => inferInstanceAs (Decidable (flag ∈ known))

def text? : Item → Option String
  | positional text => some text
  | pair _ _ => none

def pair? : Item → Option (String × String)
  | positional _ => none
  | pair flag value => some (flag, value)

def value? (flag : String) (i : Item) : Option String :=
  i.pair?.bind fun (name, value) => if name = flag then some value else none

end Item

def texts (items : List Item) : List String :=
  items.filterMap Item.text?

def values (flag : String) (items : List Item) : List String :=
  items.filterMap (Item.value? flag)

theorem lookup_reverse (flag : String) (flags : List (String × String)) :
    flags.reverse.lookup flag =
      (flags.filterMap fun (name, value) => if name = flag then some value else none).getLast? := by
  induction flags using List.reverseRecOn with
  | nil => rfl
  | append_singleton flags f ih =>
    obtain ⟨name, value⟩ := f
    rw [List.reverse_append, List.reverse_singleton, List.singleton_append, List.filterMap_append]
    by_cases h : name = flag
    · simp [h]
    · have hne : (flag == name) = false := beq_eq_false_iff_ne.mpr (Ne.symm h)
      simp [List.lookup_cons, hne, h, ih]

theorem value?_filterMap_pair? (items : List Item) (flag : String) :
    Arguments.value? ⟨texts items, items.filterMap Item.pair?⟩ flag = (values flag items).getLast? := by
  rw [Arguments.value?, lookup_reverse, List.filterMap_filterMap]
  rfl

section Split

variable {known : List String}

theorem split_positional {text : String} (htext : isFlag text = false) (rest : List String) :
    split known (text :: rest) =
      (split known rest).map fun a => { a with positional := text :: a.positional } := by
  rw [split.eq_def]
  simp only [htext, Bool.not_false, if_true]
  cases split known rest <;> rfl

theorem split_pair {flag : String} (hflag : isFlag flag = true) (hmem : flag ∈ known)
    (value : String) (rest : List String) :
    split known (flag :: value :: rest) =
      (split known rest).map fun a => { a with flags := (flag, value) :: a.flags } := by
  rw [split.eq_def]
  simp only [hflag, List.contains_iff_mem.mpr hmem, Bool.not_true, Bool.false_eq_true, if_false]
  cases split known rest <;> rfl

theorem split_words (hknown : ∀ flag ∈ known, isFlag flag = true) (items : List Item)
    (hfits : ∀ i ∈ items, i.Fits known) :
    split known (items.flatMap Item.words) = .ok ⟨texts items, items.filterMap Item.pair?⟩ := by
  induction items with
  | nil => rfl
  | cons i items ih =>
    obtain ⟨hi, hitems⟩ := List.forall_mem_cons.mp hfits
    rw [List.flatMap_cons]
    cases i with
    | positional text =>
      rw [Item.words, List.singleton_append, split_positional hi, ih hitems]
      rfl
    | pair flag value =>
      rw [Item.words, List.cons_append, List.singleton_append, split_pair (hknown flag hi) hi,
        ih hitems]
      rfl

theorem exists_items_of_split {args : List String} {a : Arguments}
    (h : split known args = .ok a) :
    ∃ items : List Item, args = items.flatMap Item.words ∧ ∀ i ∈ items, i.Fits known := by
  induction args using split.induct known generalizing a with
  | case1 => exact ⟨[], rfl, by simp⟩
  | case2 text rest htext ih =>
    rw [Bool.not_eq_true'] at htext
    rw [split_positional htext] at h
    obtain ⟨b, hrest, _⟩ := map_eq_ok.mp h
    obtain ⟨items, rfl, hfits⟩ := ih hrest
    exact ⟨.positional text :: items, rfl, List.forall_mem_cons.mpr ⟨htext, hfits⟩⟩
  | case3 arg rest hflag hunknown =>
    rw [split.eq_def] at h
    simp only [hflag, hunknown, if_true] at h
    contradiction
  | case4 flag hflag hmem =>
    rw [split.eq_def] at h
    simp only [hflag, hmem] at h
    contradiction
  | case5 flag hflag hmem value rest ih =>
    rw [Bool.not_eq_true, Bool.not_eq_false'] at hflag hmem
    have hmem := List.contains_iff_mem.mp hmem
    rw [split_pair hflag hmem] at h
    obtain ⟨b, hrest, _⟩ := map_eq_ok.mp h
    obtain ⟨items, rfl, hfits⟩ := ih hrest
    exact ⟨.pair flag value :: items, rfl, List.forall_mem_cons.mpr ⟨hmem, hfits⟩⟩

theorem words_inj (hknown : ∀ flag ∈ known, isFlag flag = true) {items items' : List Item}
    (hfits : ∀ i ∈ items, i.Fits known) (hfits' : ∀ i ∈ items', i.Fits known)
    (h : items.flatMap Item.words = items'.flatMap Item.words) : items = items' := by
  induction items generalizing items' with
  | nil =>
    cases items' with
    | nil => rfl
    | cons i' items' => cases i' <;> simp [Item.words] at h
  | cons i items ih =>
    obtain ⟨hi, hitems⟩ := List.forall_mem_cons.mp hfits
    cases items' with
    | nil => cases i <;> simp [Item.words] at h
    | cons i' items' =>
      obtain ⟨hi', hitems'⟩ := List.forall_mem_cons.mp hfits'
      simp only [List.flatMap_cons] at h
      -- A positional is no flag, so that the first word tells which kind of item is in front.
      cases i with
      | positional text =>
        cases i' with
        | positional text' =>
          simp only [Item.words, List.singleton_append, List.cons.injEq] at h
          rw [h.1, ih hitems hitems' h.2]
        | pair flag value =>
          simp only [Item.words, List.cons_append, List.nil_append, List.cons.injEq] at h
          rw [Item.Fits, h.1, hknown flag hi'] at hi
          contradiction
      | pair flag value =>
        cases i' with
        | positional text =>
          simp only [Item.words, List.cons_append, List.cons.injEq] at h
          rw [Item.Fits, ← h.1, hknown flag hi] at hi'
          contradiction
        | pair flag' value' =>
          simp only [Item.words, List.cons_append, List.cons.injEq] at h
          rw [h.1, h.2.1, ih hitems hitems' h.2.2]

end Split

inductive Verb where
  | query
  | graph
  deriving DecidableEq, Repr

namespace Verb

def name : Verb → String
  | query => "query"
  | graph => "graph"

def known : Verb → List String
  | query => ["--html", "--config"]
  | graph => ["--node", "--config"]

def command (text : String) (given : String → Option String) : Verb → Command
  | query => .query text (given "--html") (given "--config")
  | graph => .graph text (given "--node") (given "--config")

def miscount : Verb → UsageError
  | query => .notOneQuery
  | graph => .notOnePage

theorem isFlag_of_known (v : Verb) : ∀ flag ∈ v.known, isFlag flag = true := by
  cases v <;> decide

def settle (v : Verb) (a : Arguments) : Except UsageError Command :=
  match a.positional with
  | [text] => .ok (v.command text a.value?)
  | _ => .error v.miscount

theorem settle_eq_ok {v : Verb} {a : Arguments} {c : Command} :
    v.settle a = .ok c ↔ ∃ text, a.positional = [text] ∧ c = v.command text a.value? := by
  unfold settle
  split
  · next text htext =>
    rw [htext, Except.ok.injEq]
    constructor
    · rintro rfl
      exact ⟨text, rfl, rfl⟩
    · rintro ⟨text', htext', rfl⟩
      cases htext'
      rfl
  · next hno =>
    constructor
    · nofun
    · rintro ⟨text, htext, _⟩
      exact absurd htext (hno text)

theorem settle_perm {v : Verb} {a a' : Arguments} (hperm : a.positional.Perm a'.positional)
    (hvalue : a.value? = a'.value?) : v.settle a = v.settle a' := by
  unfold settle
  split
  · next text htext =>
    rw [htext, List.singleton_perm] at hperm
    rw [← hperm, hvalue]
  · next hno =>
    split
    · next text htext =>
      rw [htext, List.perm_singleton] at hperm
      exact absurd hperm (hno text)
    · rfl

theorem ofArguments_eq (v : Verb) (args : List String) :
    ofArguments (v.name :: args) = split v.known args >>= v.settle := by
  cases v with
  | query =>
    rw [name, ofArguments, if_pos rfl]
    rfl
  | graph =>
    rw [name, ofArguments, if_neg (by decide), if_pos rfl]
    rfl

theorem ofArguments_words (v : Verb) {items : List Item} (hfits : ∀ i ∈ items, i.Fits v.known) :
    ofArguments (v.name :: items.flatMap Item.words) =
      v.settle ⟨texts items, items.filterMap Item.pair?⟩ := by
  rw [ofArguments_eq, split_words v.isFlag_of_known items hfits]
  rfl

theorem ofArguments_eq_ok {v : Verb} {args : List String} {c : Command} :
    ofArguments (v.name :: args) = .ok c ↔
      ∃ (items : List Item) (text : String), args = items.flatMap Item.words ∧
        (∀ i ∈ items, i.Fits v.known) ∧ texts items = [text] ∧
        c = v.command text fun flag => (values flag items).getLast? := by
  have hsettle (items : List Item) : v.settle ⟨texts items, items.filterMap Item.pair?⟩ = .ok c ↔
      ∃ text, texts items = [text] ∧
        c = v.command text fun flag => (values flag items).getLast? := by
    rw [settle_eq_ok, funext (value?_filterMap_pair? items)]
  constructor
  · intro h
    obtain ⟨a, hsplit, _⟩ := bind_eq_ok.mp (v.ofArguments_eq args ▸ h)
    obtain ⟨items, rfl, hfits⟩ := exists_items_of_split hsplit
    rw [v.ofArguments_words hfits, hsettle] at h
    obtain ⟨text, htext, hc⟩ := h
    exact ⟨items, text, rfl, hfits, htext, hc⟩
  · rintro ⟨items, text, rfl, hfits, htext, hc⟩
    rw [v.ofArguments_words hfits, hsettle]
    exact ⟨text, htext, hc⟩

theorem ofArguments_perm (v : Verb) {items items' : List Item}
    (hfits : ∀ i ∈ items, i.Fits v.known) (hperm : items.Perm items')
    (hvalues : ∀ flag, values flag items = values flag items') :
    ofArguments (v.name :: items.flatMap Item.words) =
      ofArguments (v.name :: items'.flatMap Item.words) := by
  have hfits' : ∀ i ∈ items', i.Fits v.known := fun i hi => hfits i (hperm.mem_iff.mpr hi)
  rw [v.ofArguments_words hfits, v.ofArguments_words hfits']
  apply settle_perm
  · exact hperm.filterMap Item.text?
  · funext flag
    rw [value?_filterMap_pair?, value?_filterMap_pair?, hvalues]

end Verb

theorem ofArguments_items (v : Verb) :
    (∀ args c, ofArguments (v.name :: args) = .ok c ↔
      ∃ (items : List Item) (text : String), args = items.flatMap Item.words ∧
        (∀ i ∈ items, i.Fits v.known) ∧ texts items = [text] ∧
        c = v.command text fun flag => (values flag items).getLast?) ∧
    (∀ items items' : List Item, (∀ i ∈ items, i.Fits v.known) → (∀ i ∈ items', i.Fits v.known) →
      items.flatMap Item.words = items'.flatMap Item.words → items = items') ∧
    ∀ items items' : List Item, (∀ i ∈ items, i.Fits v.known) → items.Perm items' →
      (∀ flag, values flag items = values flag items') →
      ofArguments (v.name :: items.flatMap Item.words) =
        ofArguments (v.name :: items'.flatMap Item.words) := by
  refine ⟨fun args c => Verb.ofArguments_eq_ok, ?_, ?_⟩
  · intro items items' hfits hfits' hwords
    exact words_inj v.isFlag_of_known hfits hfits' hwords
  · intro items items' hfits hperm hvalues
    exact v.ofArguments_perm hfits hperm hvalues

def shuffled : List Item := [
  .pair "--config" "old.json", .positional "page.html", .pair "--node" "--config",
  .pair "--config" "new.json"]

def sorted : List Item := [
  .positional "page.html", .pair "--node" "--config", .pair "--config" "old.json",
  .pair "--config" "new.json"]

theorem ofArguments_items_shuffled :
    (∀ i ∈ shuffled, i.Fits Verb.graph.known) ∧ shuffled.Perm sorted ∧
      (∀ flag, values flag shuffled = values flag sorted) ∧
      ofArguments ("graph" :: shuffled.flatMap Item.words) =
        ofArguments ("graph" :: sorted.flatMap Item.words) ∧
      ofArguments ("graph" :: shuffled.flatMap Item.words) =
        .ok (.graph "page.html" (some "--config") (some "new.json")) := by
  obtain ⟨haccepts, _, hmoved⟩ := ofArguments_items .graph
  have hfits : ∀ i ∈ shuffled, i.Fits Verb.graph.known := by decide
  have hperm : shuffled.Perm sorted := by decide
  have hvalues (flag : String) : values flag shuffled = values flag sorted := by
    by_cases hnode : "--node" = flag
    · subst hnode
      decide
    · simp [values, shuffled, sorted, List.filterMap_cons, Item.value?, Item.pair?, hnode]
  refine ⟨hfits, hperm, hvalues, hmoved shuffled sorted hfits hperm hvalues, ?_⟩
  exact (haccepts _ _).mpr ⟨shuffled, "page.html", rfl, hfits, by decide, by decide⟩

end PageGraph.Command
