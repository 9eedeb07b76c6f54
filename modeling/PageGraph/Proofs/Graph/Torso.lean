import Mathlib.Logic.Relation
import PageGraph.Proofs.Graph.Simple

/-!
The torso of a graph on some of its nodes: an edge for every walk of the graph between two of them
whose inner nodes are all left out. A torso of a torso is a torso, and reachability between the
nodes that stay is what it was.
-/

namespace PageGraph

namespace Node

/-- What a node keeps as long as it is there: all but its classes, its root flag and its parent. -/
def fixed (n : Node) : Node :=
  { n with classes := [], isRoot := false, parent := none }

theorem fixed_eq_iff (m n : Node) :
    m.fixed = n.fixed ↔ m.id = n.id ∧ m.tag = n.tag ∧ m.name = n.name ∧ m.index = n.index ∧
      m.payload = n.payload ∧ m.labels = n.labels := by
  simp [fixed]

end Node

namespace Graph

def Edge (g : Graph) (s t : Slot) : Prop :=
  (s, t) ∈ g.edges

theorem rank_lt_of_reaches {g : Graph} (rank : Slot → Nat)
    (hrank : ∀ s t, g.Edge s t → rank s < rank t) {s t : Slot}
    (h : Relation.TransGen g.Edge s t) : rank s < rank t := by
  induction h with
  | single he => exact hrank _ _ he
  | tail _ he ih => exact Nat.lt_trans ih (hrank _ _ he)

inductive Walk (g : Graph) (P : Slot → Prop) : Slot → Slot → Prop where
  | single {s t : Slot} (h : g.Edge s t) : Walk g P s t
  | cons {s t u : Slot} (h : g.Edge s t) (ht : P t) (w : Walk g P t u) : Walk g P s u

theorem Walk.mono {g : Graph} {P Q : Slot → Prop} (hPQ : ∀ q r, g.Edge q r → P r → Q r)
    {s t : Slot} (w : g.Walk P s t) : g.Walk Q s t := by
  induction w with
  | single h => exact .single h
  | cons h ht w ih => exact .cons h (hPQ _ _ h ht) ih

theorem Walk.append {g : Graph} {P : Slot → Prop} {s t u : Slot} (v : g.Walk P s t) (ht : P t)
    (w : g.Walk P t u) : g.Walk P s u := by
  induction v with
  | single h => exact .cons h ht w
  | cons h hr v ih => exact .cons h hr (ih ht w)

theorem walk_eq_iff (g : Graph) (r s t : Slot) :
    g.Walk (· = r) s t ↔ g.Edge s t ∨ g.Edge s r ∧ g.Edge r t := by
  constructor
  · intro w
    induction w with
    | single h => exact .inl h
    | cons h hr w ih =>
      subst hr
      rcases ih with he | ⟨_, he⟩ <;> exact .inr ⟨h, he⟩
  · rintro (h | ⟨hr, h⟩)
    · exact .single h
    · exact .cons hr rfl (.single h)

theorem walk_true_iff (g : Graph) (s t : Slot) :
    g.Walk (fun _ => True) s t ↔ Relation.TransGen g.Edge s t := by
  constructor
  · intro w
    induction w with
    | single h => exact .single h
    | cons h ht w ih => exact .head h ih
  · intro h
    induction h using Relation.TransGen.head_induction_on with
    | single h => exact .single h
    | head h _ ih => exact .cons h trivial ih

theorem Simple.contains_left {g : Graph} (hg : g.Simple) {s t : Slot} (h : g.Edge s t) :
    g.contains s = true :=
  (hg.live _ h).1

theorem Simple.contains_right {g : Graph} (hg : g.Simple) {s t : Slot} (h : g.Edge s t) :
    g.contains t = true :=
  (hg.live _ h).2

theorem Walk.live {g : Graph} (hg : g.Simple) {P : Slot → Prop} {s t : Slot} (w : g.Walk P s t) :
    g.contains s = true ∧ g.contains t = true := by
  induction w with
  | single h => exact ⟨hg.contains_left h, hg.contains_right h⟩
  | cons h ht w ih => exact ⟨hg.contains_left h, ih.2⟩

structure Torso (g h : Graph) : Prop where
  node : ∀ s m, h.node? s = some m → ∃ n, g.node? s = some n ∧ m.fixed = n.fixed
  edge : ∀ s t, h.Edge s t ↔ h.contains s = true ∧ h.contains t = true ∧
    g.Walk (fun r => h.contains r = false) s t

namespace Torso

variable {g h k : Graph}

theorem contains (ht : Torso g h) {s : Slot} (hs : h.contains s = true) :
    g.contains s = true := by
  obtain ⟨m, hm⟩ := (contains_iff h s).mp hs
  obtain ⟨n, hn, _⟩ := ht.node s m hm
  exact (contains_iff g s).mpr ⟨n, hn⟩

theorem refl (hg : g.Simple) : Torso g g := by
  constructor
  · intro s m hm
    exact ⟨m, hm, rfl⟩
  · intro s t
    constructor
    · intro he
      exact ⟨hg.contains_left he, hg.contains_right he, .single he⟩
    · rintro ⟨_, _, w⟩
      cases w with
      | single he => exact he
      | cons he hr w =>
        rw [hg.contains_right he] at hr
        contradiction

theorem resume (ht : Torso g h) {P : Slot → Prop} {s t : Slot} (w : g.Walk P s t)
    (htt : h.contains t = true) :
    (h.contains s = true → h.Walk P s t) ∧
      (h.contains s = false → ∀ p, h.contains p = true →
        g.Walk (fun r => h.contains r = false) p s → h.Walk P p t) := by
  -- The walk is picked up from the last node that stayed: from its start, or from a node with a
  -- walk to its start through nodes that go.
  induction w with
  | @single s t he =>
    constructor
    · intro hs
      exact .single ((ht.edge s t).mpr ⟨hs, htt, .single he⟩)
    · intro hs p hp v
      exact .single ((ht.edge p t).mpr ⟨hp, htt, v.append hs (.single he)⟩)
  | @cons s r t he hr w ih =>
    obtain ⟨stays, goes⟩ := ih htt
    by_cases hrr : h.contains r = true
    · constructor
      · intro hs
        exact .cons ((ht.edge s r).mpr ⟨hs, hrr, .single he⟩) hr (stays hrr)
      · intro hs p hp v
        exact .cons ((ht.edge p r).mpr ⟨hp, hrr, v.append hs (.single he)⟩) hr (stays hrr)
    · rw [Bool.not_eq_true] at hrr
      constructor
      · intro hs
        exact goes hrr s hs (.single he)
      · intro hs p hp v
        exact goes hrr p hp (v.append hs (.single he))

theorem walk_iff (ht : Torso g h) {P : Slot → Prop} (hP : ∀ r, h.contains r = false → P r)
    {s t : Slot} (hs : h.contains s = true) (htt : h.contains t = true) :
    h.Walk P s t ↔ g.Walk P s t := by
  constructor
  · intro w
    clear hs htt
    induction w with
    | @single s t he => exact ((ht.edge s t).mp he).2.2.mono fun _ r _ => hP r
    | @cons s r t he hr w ih => exact (((ht.edge s r).mp he).2.2.mono fun _ r _ => hP r).append hr ih
  · intro w
    exact (ht.resume w htt).1 hs

theorem trans (h₁ : Torso g h) (h₂ : Torso h k) : Torso g k := by
  constructor
  · intro s m hm
    obtain ⟨n, hn, hmn⟩ := h₂.node s m hm
    obtain ⟨l, hl, hnl⟩ := h₁.node s n hn
    exact ⟨l, hl, hmn.trans hnl⟩
  · intro s t
    rw [h₂.edge s t]
    refine and_congr_right fun hs => and_congr_right fun ht => ?_
    refine h₁.walk_iff ?_ (h₂.contains hs) (h₂.contains ht)
    intro r hr
    by_contra hk
    rw [Bool.not_eq_false] at hk
    rw [h₂.contains hk] at hr
    contradiction

theorem reaches_iff (ht : Torso g h) {s t : Slot} (hs : h.contains s = true)
    (htt : h.contains t = true) :
    Relation.TransGen h.Edge s t ↔ Relation.TransGen g.Edge s t := by
  rw [← walk_true_iff, ← walk_true_iff]
  exact ht.walk_iff (fun _ _ => trivial) hs htt

end Torso

end Graph

end PageGraph
