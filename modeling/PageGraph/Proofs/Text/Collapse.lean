import Mathlib.Data.List.DropRight
import Mathlib.Data.List.Infix
import PageGraph.Text.Blank

/-!
Collapsing blanks as a scan from character to character, in which a text stays whole wherever it
stands: what it collapses to is a part of what its surroundings collapse to. A text whose words are
parted by single spaces is only trimmed.
-/

namespace PageGraph.Text

/-- Where a scan stands: in front of all words, in a word, or in the blanks behind one. -/
inductive Position where
  | front
  | word
  | gap

def squeeze : Position → List Char → List Char
  | _, [] => []
  | .front, c :: cs => if isBlank c then squeeze .front cs else c :: squeeze .word cs
  | .word, c :: cs => if isBlank c then squeeze .gap cs else c :: squeeze .word cs
  | .gap, c :: cs => if isBlank c then squeeze .gap cs else ' ' :: c :: squeeze .word cs

theorem squeeze_append (p : Position) (as bs : List Char) :
    ∃ q, squeeze p (as ++ bs) = squeeze p as ++ squeeze q bs := by
  induction as generalizing p with
  | nil => exact ⟨p, by simp [squeeze]⟩
  | cons a as ih =>
    obtain ⟨q, hfront⟩ := ih .front
    obtain ⟨r, hword⟩ := ih .word
    obtain ⟨t, hgap⟩ := ih .gap
    by_cases ha : isBlank a = true
    · cases p with
      | front => exact ⟨q, by simp [squeeze, ha, hfront]⟩
      | word => exact ⟨t, by simp [squeeze, ha, hgap]⟩
      | gap => exact ⟨t, by simp [squeeze, ha, hgap]⟩
    · cases p <;> exact ⟨r, by simp [squeeze, ha, hword]⟩

theorem squeeze_front_suffix (p : Position) (cs : List Char) :
    squeeze .front cs <:+ squeeze p cs := by
  induction cs generalizing p with
  | nil => simp [squeeze]
  | cons c cs ih =>
    by_cases hc : isBlank c = true
    · cases p <;> simp only [squeeze, hc, if_true] <;> exact ih _
    · cases p with
      | front => exact List.suffix_refl _
      | word => simp [squeeze, hc]
      | gap =>
        simp only [squeeze, hc, if_false, Bool.false_eq_true]
        exact List.suffix_cons ' ' _

theorem squeeze_infix (as bs cs : List Char) :
    squeeze .front bs <:+: squeeze .front (as ++ bs ++ cs) := by
  obtain ⟨q, hq⟩ := squeeze_append .front as bs
  obtain ⟨r, hr⟩ := squeeze_append .front (as ++ bs) cs
  obtain ⟨lead, hlead⟩ := squeeze_front_suffix q bs
  rw [hr, hq, ← hlead]
  exact ⟨squeeze .front as ++ lead, squeeze r cs, by simp⟩

-- Both at once: a word that ends leads into a gap, and a gap into the next word.
theorem intercalate_wordsFrom (word cs : List Char) :
    [' '].intercalate (wordsFrom word cs) =
      word.reverse ++ squeeze (if word.isEmpty then .front else .word) cs ∧
    squeeze .gap cs =
      if wordsFrom [] cs = [] then [] else ' ' :: [' '].intercalate (wordsFrom [] cs) := by
  induction cs generalizing word with
  | nil =>
    cases word <;> simp [wordsFrom, squeeze]
  | cons c cs ih =>
    obtain ⟨hfront, hgap⟩ := ih []
    by_cases hc : isBlank c = true
    · refine ⟨?_, by simpa [wordsFrom, squeeze, hc] using hgap⟩
      cases word with
      | nil => simpa [wordsFrom, squeeze, hc] using hfront
      | cons w word =>
        simp only [wordsFrom, squeeze, hc, if_true, List.isEmpty_cons, Bool.false_eq_true,
          if_false, hgap]
        cases wordsFrom [] cs <;> simp
    · have hword := (ih (c :: word)).1
      refine ⟨?_, ?_⟩
      · cases word <;> simpa [wordsFrom, squeeze, hc] using hword
      · have hne : wordsFrom [c] cs ≠ [] := by
          intro h
          have := (ih [c]).1
          simp [h] at this
        simpa [wordsFrom, squeeze, hc, hne] using (ih [c]).1.symm

theorem toList_collapse (s : String) : (collapse s).toList = squeeze .front s.toList := by
  have h := (intercalate_wordsFrom [] s.toList).1
  simpa [collapse, words, String.toList_intercalate, List.map_map, Function.comp_def] using h

theorem collapse_infix (a b c : String) :
    (collapse b).toList <:+: (collapse (a ++ b ++ c)).toList := by
  simpa only [toList_collapse, String.toList_append] using squeeze_infix a.toList b.toList c.toList

theorem squeeze_gap_blanks {gap : List Char} (hgap : ∀ c ∈ gap, isBlank c = true) (cs : List Char) :
    squeeze .gap (gap ++ cs) = squeeze .gap cs := by
  induction gap with
  | nil => rfl
  | cons c gap ih =>
    rw [List.cons_append, squeeze, if_pos (hgap c List.mem_cons_self)]
    exact ih fun d hd => hgap d (List.mem_cons_of_mem c hd)

theorem squeeze_front_dropWhile (cs : List Char) :
    squeeze .front (cs.dropWhile isBlank) = squeeze .front cs := by
  induction cs with
  | nil => rfl
  | cons c cs ih =>
    by_cases hc : isBlank c = true
    · rw [List.dropWhile_cons_of_pos hc, ih, squeeze, if_pos hc]
    · rw [List.dropWhile_cons_of_neg hc]

theorem blank_or_word (cs : List Char) : (∀ c ∈ cs, isBlank c = true) ∨
    ∃ gap b after, cs = gap ++ b :: after ∧ (∀ c ∈ gap, isBlank c = true) ∧ isBlank b = false := by
  induction cs with
  | nil => exact .inl (by simp)
  | cons c cs ih =>
    by_cases hc : isBlank c = true
    · rcases ih with hall | ⟨gap, b, after, rfl, hgap, hb⟩
      · exact .inl (List.forall_mem_cons.mpr ⟨hc, hall⟩)
      · exact .inr ⟨c :: gap, b, after, rfl, List.forall_mem_cons.mpr ⟨hc, hgap⟩, hb⟩
    · exact .inr ⟨[], c, cs, rfl, by simp, by simpa using hc⟩

def Gapped (cs : List Char) : Prop :=
  ∃ before a gap b after, cs = before ++ a :: (gap ++ b :: after) ∧ isBlank a = false ∧
    isBlank b = false ∧ (∀ c ∈ gap, isBlank c = true) ∧ gap ≠ [] ∧ gap ≠ [' ']

theorem Gapped.append {cs : List Char} (h : Gapped cs) (front : List Char) :
    Gapped (front ++ cs) := by
  obtain ⟨before, a, gap, b, after, rfl, h⟩ := h
  exact ⟨front ++ before, a, gap, b, after, by rw [List.append_assoc], h⟩

theorem rdropWhile_word {b : Char} (hb : isBlank b = false) (before after : List Char) :
    (before ++ b :: after).rdropWhile isBlank = before ++ b :: after.rdropWhile isBlank := by
  induction after using List.reverseRecOn with
  | nil => rw [List.rdropWhile_concat_neg _ _ _ (by simp [hb]), List.rdropWhile_nil]
  | append_singleton after c ih =>
    rw [← List.cons_append, ← List.append_assoc, List.rdropWhile_concat, List.rdropWhile_concat, ih]
    split
    · rfl
    · rw [List.append_assoc, List.cons_append]

theorem squeeze_word_eq {a : Char} (ha : isBlank a = false) (cs : List Char)
    (h : ¬ Gapped (a :: cs)) : squeeze .word cs = cs.rdropWhile isBlank := by
  match cs with
  | [] => rfl
  | c :: cs =>
    by_cases hc : isBlank c = true
    · rw [squeeze, if_pos hc]
      rcases blank_or_word cs with hall | ⟨gap, b, after, rfl, hgap, hb⟩
      · have hnil := squeeze_gap_blanks hall []
        rw [List.append_nil] at hnil
        rw [hnil, squeeze, eq_comm, List.rdropWhile_eq_nil_iff]
        exact List.forall_mem_cons.mpr ⟨hc, hall⟩
      · have hspace : c :: gap = [' '] := by
          by_contra hne
          exact h ⟨[], a, c :: gap, b, after, rfl, ha, hb, List.forall_mem_cons.mpr ⟨hc, hgap⟩,
            List.cons_ne_nil c gap, hne⟩
        obtain ⟨rfl, rfl⟩ := List.cons.inj hspace
        have hafter := squeeze_word_eq hb after fun hafter => h (hafter.append [a, ' '])
        rw [List.nil_append, squeeze, if_neg (by simp [hb]), hafter]
        exact (rdropWhile_word hb [' '] after).symm
    · have hword : isBlank c = false := by simpa using hc
      rw [squeeze, if_neg hc, squeeze_word_eq hword cs fun hrest => h (hrest.append [a])]
      exact (rdropWhile_word hword [] cs).symm
termination_by cs.length

theorem squeeze_eq_trimChars {cs : List Char} (h : ¬ Gapped cs) :
    squeeze .front cs = trimChars cs := by
  rw [← squeeze_front_dropWhile]
  change _ = (cs.dropWhile isBlank).rdropWhile isBlank
  cases hcs : cs.dropWhile isBlank with
  | nil => rfl
  | cons b after =>
    have hb : isBlank b = false := by
      simpa [hcs] using List.head?_dropWhile_not isBlank cs
    have hword : ¬ Gapped (b :: after) := by
      intro hgapped
      have hwhole := hgapped.append (cs.takeWhile isBlank)
      rw [← hcs, List.takeWhile_append_dropWhile] at hwhole
      exact h hwhole
    rw [squeeze, if_neg (by simp [hb]), squeeze_word_eq hb after hword]
    exact (rdropWhile_word hb [] after).symm

theorem collapse_eq_trim {s : String} (h : ¬ Gapped s.toList) : collapse s = trim s := by
  apply String.toList_injective
  rw [toList_collapse, squeeze_eq_trimChars h, trim, String.toList_ofList]

theorem space_mem_squeeze_word {gap : List Char} (hgap : ∀ c ∈ gap, isBlank c = true)
    (hne : gap ≠ []) {b : Char} (hb : isBlank b = false) (after : List Char) :
    ' ' ∈ squeeze .word (gap ++ b :: after) := by
  cases gap with
  | nil => exact absurd rfl hne
  | cons c gap =>
    obtain ⟨hc, hgap⟩ := List.forall_mem_cons.mp hgap
    rw [List.cons_append, squeeze, if_pos hc, squeeze_gap_blanks hgap, squeeze,
      if_neg (by simp [hb])]
    exact List.mem_cons_self

theorem Gapped.space_mem_collapse {s : String} (h : Gapped s.toList) :
    ' ' ∈ (collapse s).toList := by
  obtain ⟨before, a, gap, b, after, hs, ha, hb, hgap, hne, _⟩ := h
  have hspace := space_mem_squeeze_word hgap hne hb after
  obtain ⟨p, hp⟩ := squeeze_append .front before (a :: (gap ++ b :: after))
  rw [toList_collapse, hs, hp]
  apply List.mem_append_right
  cases p <;> simp [squeeze, ha, hspace]

end PageGraph.Text
