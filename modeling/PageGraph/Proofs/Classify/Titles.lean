import PageGraph.Proofs.Classify.Marking

/-!
The payloads of headings. Headings are dealt with in node order, so that a heading is given the
texts of its children with those that the headings in front of it have been given, and without those
of the headings behind it.
-/

namespace PageGraph

theorem Labelling.payloadAt_addTitle_of_none (r : Labelling) (s : Slot)
    (hs : r.graph.contains s = true) (hp : r.graph.payloadAt s = none) :
    (r.addTitle s).graph.payloadAt s = some { text := r.graph.childText s } := by
  obtain ⟨n, hn⟩ := (r.graph.contains_iff s).mp hs
  rw [Graph.payloadAt, hn, Option.bind_some] at hp
  rw [addTitle, payloadAt_add]
  simp [Graph.fillPayload, Graph.payloadAt, Graph.node?_modify, hn, hp]

namespace Graph

def Untitled (g : Graph) (s : Slot) : Prop :=
  ∃ n, g.node? s = some n ∧ n.isHeading = true ∧ n.payload = none

/-- The payload of a node at the moment when the heading `s` is dealt with, where `g` is the graph
before all headings are and `h` the one after. -/
def payloadBetween (g h : Graph) (s c : Slot) : Option Payload :=
  if c < s then h.payloadAt c else g.payloadAt c

def textOf (children : List Slot) (payload : Slot → Option Payload) : String :=
  " ".intercalate (children.filterMap fun c => (payload c).map (·.text))

def textBetween (g h : Graph) (s : Slot) : String :=
  textOf (g.children s) (payloadBetween g h s)

structure Titled (g h : Graph) : Prop where
  filled : ∀ s, g.Untitled s → h.payloadAt s = some { text := textBetween g h s }
  kept : ∀ s, ¬ g.Untitled s → h.payloadAt s = g.payloadAt s

variable {g : Graph} {s : Slot}

theorem textOf_congr {children : List Slot} {p q : Slot → Option Payload}
    (h : ∀ c ∈ children, p c = q c) : textOf children p = textOf children q := by
  have hpayload (c : Slot) (hc : c ∈ children) :
      (p c).map Payload.text = (q c).map Payload.text := by
    rw [h c hc]
  rw [textOf, textOf, List.filterMap_congr hpayload]

theorem childText_eq (g : Graph) (s : Slot) : g.childText s = textOf (g.children s) g.payloadAt :=
  rfl

theorem untitled_iff :
    g.Untitled s ↔ s ∈ g.slotsWhere (·.isHeading) ∧ g.payloadAt s = none := by
  rw [mem_slotsWhere, payloadAt]
  constructor
  · rintro ⟨n, hn, hhead, hnone⟩
    exact ⟨⟨n, hn, hhead⟩, by rw [hn, Option.bind_some, hnone]⟩
  · rintro ⟨⟨n, hn, hhead⟩, hnone⟩
    rw [hn, Option.bind_some] at hnone
    exact ⟨n, hn, hhead, hnone⟩

theorem untitled_congr {h : Graph} (hgh : Relabelled g h) (hs : h.payloadAt s = g.payloadAt s) :
    h.Untitled s ↔ g.Untitled s := by
  rw [untitled_iff, untitled_iff, hgh.slotsWhere _ fun _ => rfl, hs]

theorem payloadAt_labelTitles_of_untitled (hs : g.Untitled s) :
    g.labelTitles.graph.payloadAt s =
      some { text := textBetween g g.labelTitles.graph s } := by
  have hsorted : (g.slotsWhere (·.isHeading)).Pairwise (· < ·) :=
    g.pairwise_nodes.sublist (List.filter_sublist.map _)
  obtain ⟨hhead, hblank⟩ := untitled_iff.mp hs
  obtain ⟨before, after, hsplit⟩ := List.append_of_mem hhead
  rw [hsplit, List.pairwise_append, List.pairwise_cons] at hsorted
  obtain ⟨-, ⟨hafter, -⟩, hbefore⟩ := hsorted
  -- The graph at the moment when the heading is dealt with.
  let r := before.foldl Labelling.addTitle (.start g)
  have hrel : Relabelled g r.graph :=
    Labelling.relabelled_foldl _ Labelling.relabelled_addTitle (.start g) before
  have hdone : g.labelTitles = after.foldl Labelling.addTitle (r.addTitle s) := by
    rw [labelTitles, hsplit, List.foldl_append, List.foldl_cons]
  have hahead (c : Slot) (hc : s ≤ c) : r.graph.payloadAt c = g.payloadAt c := by
    apply Labelling.payloadAt_foldl_addTitle_of_not_mem
    intro hin
    exact Nat.not_lt_of_le hc (hbefore c hin s List.mem_cons_self)
  have hbehind (c : Slot) (hc : c < s) :
      g.labelTitles.graph.payloadAt c = r.graph.payloadAt c := by
    rw [hdone, Labelling.payloadAt_foldl_addTitle_of_not_mem,
      Labelling.payloadAt_addTitle_of_ne r (Nat.ne_of_lt hc)]
    intro hin
    exact Nat.lt_asymm hc (hafter c hin)
  have htext : r.graph.childText s = textBetween g g.labelTitles.graph s := by
    rw [childText_eq, textBetween, hrel.children]
    refine textOf_congr fun c _ => ?_
    rw [payloadBetween]
    split
    · next hc => exact (hbehind c hc).symm
    · next hc => exact hahead c (Nat.le_of_not_lt hc)
  have hlive : r.graph.contains s = true := by
    obtain ⟨n, hn, _⟩ := hs
    exact (hrel.contains s).trans ((g.contains_iff s).mpr ⟨n, hn⟩)
  have hnone : r.graph.payloadAt s = none := (hahead s (Nat.le_refl s)).trans hblank
  rw [← htext, hdone]
  apply Labelling.payloadAt_foldl_addTitle_of_some
  exact Labelling.payloadAt_addTitle_of_none r s hlive hnone

theorem titled_labelTitles (g : Graph) : Titled g g.labelTitles.graph := by
  constructor
  · intro s hs
    exact payloadAt_labelTitles_of_untitled hs
  · intro s hs
    by_cases hhead : s ∈ g.slotsWhere (·.isHeading)
    · cases hp : g.payloadAt s with
      | none => exact absurd (untitled_iff.mpr ⟨hhead, hp⟩) hs
      | some p => exact Labelling.payloadAt_foldl_addTitle_of_some (.start g) _ s hp
    · exact Labelling.payloadAt_foldl_addTitle_of_not_mem (.start g) _ s hhead

namespace Titled

variable {h k : Graph}

theorem same_trans (hgh : Relabelled g h) (hsame : ∀ s, h.payloadAt s = g.payloadAt s)
    (hhk : Titled h k) : Titled g k := by
  constructor
  · intro s hs
    rw [hhk.filled s ((untitled_congr hgh (hsame s)).mpr hs), textBetween, hgh.children,
      textBetween]
    congr 2
    refine textOf_congr fun c _ => ?_
    rw [payloadBetween, hsame, payloadBetween]
  · intro s hs
    rw [hhk.kept s fun hh => hs ((untitled_congr hgh (hsame s)).mp hh), hsame]

theorem trans_same (hgh : Titled g h) (hsame : ∀ s, k.payloadAt s = h.payloadAt s) :
    Titled g k := by
  constructor
  · intro s hs
    rw [hsame, hgh.filled s hs, textBetween, textBetween]
    congr 2
    refine textOf_congr fun c _ => ?_
    rw [payloadBetween, ← hsame, payloadBetween]
  · intro s hs
    rw [hsame, hgh.kept s hs]

theorem not_untitled (hgh : Titled g h) (hrel : Relabelled g h) (s : Slot) : ¬ h.Untitled s := by
  intro hs
  by_cases hg : g.Untitled s
  · have hnone := (untitled_iff.mp hs).2
    rw [hgh.filled s hg] at hnone
    contradiction
  · exact hg ((untitled_congr hrel (hgh.kept s hg)).mp hs)

end Titled

/-- Where children come behind their parents, none of a heading's children has been dealt with
before the heading. -/
theorem payloadAt_labelTitles (hasc : ∀ s t, g.Edge s t → s < t) {n : Node}
    (hn : g.node? s = some n) (hhead : n.isHeading = true) (hnone : n.payload = none) :
    g.labelTitles.graph.payloadAt s = some { text := g.childText s } := by
  rw [payloadAt_labelTitles_of_untitled ⟨n, hn, hhead, hnone⟩, textBetween, childText_eq]
  congr 2
  refine textOf_congr fun c hc => ?_
  exact if_neg (Nat.lt_asymm (hasc s c ((g.mem_children s c).mp hc)))

end Graph

end PageGraph
