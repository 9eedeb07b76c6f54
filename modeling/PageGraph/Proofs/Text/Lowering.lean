import PageGraph.Text.LowerCase

namespace PageGraph.Text

def sigma : Char :=
  '\u03a3'

def endsWord (before after : List Char) : Bool :=
  meetsCased before && !meetsCased after

def lowerBetween (before after : List Char) : List Char → List Char
  | [] => []
  | c :: cs =>
    (if c = sigma then if endsWord before (cs ++ after) then ['\u03c2'] else ['\u03c3']
      else lowerChar c) ++ lowerBetween (c :: before) after cs

theorem lowerAfter_append (before cs ds : List Char) :
    lowerAfter before (cs ++ ds) =
      lowerBetween before ds cs ++ lowerAfter (cs.reverse ++ before) ds := by
  induction cs generalizing before with
  | nil => rfl
  | cons c cs ih =>
    rw [List.cons_append, lowerAfter, ih, lowerBetween, List.append_assoc, List.reverse_cons,
      List.append_assoc, List.singleton_append]
    rfl

theorem lowerAfter_eq (before cs : List Char) : lowerAfter before cs = lowerBetween before [] cs := by
  have h := lowerAfter_append before cs []
  rwa [List.append_nil, lowerAfter, List.append_nil] at h

theorem lowerBetween_congr {cs before after before' after' : List Char}
    (h : ∀ front back, cs = front ++ sigma :: back →
      endsWord (front.reverse ++ before) (back ++ after) =
        endsWord (front.reverse ++ before') (back ++ after')) :
    lowerBetween before after cs = lowerBetween before' after' cs := by
  induction cs generalizing before before' with
  | nil => rfl
  | cons c cs ih =>
    rw [lowerBetween, lowerBetween]
    congr 1
    · split
      · next hc =>
        have hfirst := h [] cs (by rw [hc, List.nil_append])
        rw [List.reverse_nil, List.nil_append, List.nil_append] at hfirst
        rw [hfirst]
      · rfl
    · refine ih fun front back hcs => ?_
      have hnext := h (c :: front) back (by rw [hcs, List.cons_append])
      simpa only [List.reverse_cons, List.append_assoc, List.singleton_append] using hnext

theorem lowerChar_ne_nil (c : Char) : lowerChar c ≠ [] := by
  unfold lowerChar
  split
  · simp
  split
  · simp
  split <;> simp

theorem lowerAfter_eq_nil_iff (before cs : List Char) : lowerAfter before cs = [] ↔ cs = [] := by
  cases cs with
  | nil => simp [lowerAfter]
  | cons c cs =>
    rw [lowerAfter]
    simp only [List.append_eq_nil_iff, reduceCtorEq, iff_false, not_and]
    intro hnil
    split at hnil
    · split at hnil <;> simp at hnil
    · exact absurd hnil (lowerChar_ne_nil c)

theorem toList_lower (s : String) : (lower s).toList = lowerBetween [] [] s.toList := by
  rw [lower, String.toList_ofList, lowerAfter_eq]

/-- A part of a text stands lower-cased in the lower-cased text, if its sigmas end words there as
they do by themselves. -/
theorem lowerBetween_infix (before cs after : List Char)
    (h : ∀ front back, cs = front ++ sigma :: back →
      endsWord (front.reverse ++ before.reverse) (back ++ after) = endsWord front.reverse back) :
    lowerBetween [] [] cs <:+: lowerBetween [] [] (before ++ cs ++ after) := by
  have hsame : lowerBetween before.reverse after cs = lowerBetween [] [] cs := by
    refine lowerBetween_congr fun front back hcs => ?_
    simpa only [List.append_nil] using h front back hcs
  have hall : lowerBetween [] [] (before ++ cs ++ after) = lowerBetween [] (cs ++ after) before ++
      (lowerBetween [] [] cs ++ lowerAfter (cs.reverse ++ before.reverse) after) := by
    rw [← lowerAfter_eq, List.append_assoc, lowerAfter_append, lowerAfter_append, List.append_nil,
      hsame]
  rw [hall]
  exact ⟨lowerBetween [] (cs ++ after) before, _, by rw [List.append_assoc]⟩

theorem mem_lowerBetween {c : Char} (hc : c ≠ sigma) (hself : c ∈ lowerChar c) {cs : List Char}
    (hmem : c ∈ cs) (before after : List Char) : c ∈ lowerBetween before after cs := by
  induction cs generalizing before with
  | nil => contradiction
  | cons d cs ih =>
    rw [lowerBetween]
    rcases List.mem_cons.mp hmem with rfl | hmem
    · exact List.mem_append_left _ (by rwa [if_neg hc])
    · exact List.mem_append_right _ (ih hmem _)

theorem space_mem_lower {s : String} (h : ' ' ∈ s.toList) : ' ' ∈ (lower s).toList := by
  rw [toList_lower]
  exact mem_lowerBetween (by decide) (by decide) h [] []

end PageGraph.Text
