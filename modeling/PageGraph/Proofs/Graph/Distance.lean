import Mathlib.Data.Nat.Find
import PageGraph.Graph.Depth
import PageGraph.Proofs.Graph.Torso

namespace PageGraph.Graph

inductive Way (g : Graph) (s : Slot) : Nat → Slot → Prop where
  | here : Way g s 0 s
  | step {d : Nat} {t u : Slot} (w : Way g s d t) (h : g.Edge t u) : Way g s (d + 1) u

structure Distance (g : Graph) (s t : Slot) (d : Nat) : Prop where
  way : g.Way s d t
  least : ∀ e, g.Way s e t → d ≤ e

variable {g : Graph} {root : Slot}

theorem Distance.inj {t : Slot} {d e : Nat} (hd : g.Distance root t d) (he : g.Distance root t e) :
    d = e :=
  Nat.le_antisymm (hd.least e he.way) (he.least d hd.way)

theorem Way.exists_distance {t : Slot} {d : Nat} (w : g.Way root d t) :
    ∃ e ≤ d, g.Distance root t e := by
  classical
  have hsome : ∃ e, g.Way root e t := ⟨d, w⟩
  refine ⟨Nat.find hsome, Nat.find_min' hsome w, Nat.find_spec hsome, ?_⟩
  intro e he
  exact Nat.find_min' hsome he

theorem Distance.exists_edge {t : Slot} {d : Nat} (h : g.Distance root t (d + 1)) :
    ∃ p, g.Distance root p d ∧ g.Edge p t := by
  obtain ⟨w, hleast⟩ := h
  cases w with
  | @step _ p _ w hp =>
    refine ⟨p, ⟨w, ?_⟩, hp⟩
    intro e he
    have := hleast (e + 1) (he.step hp)
    omega

theorem Distance.exists_between {t : Slot} {d : Nat} (h : g.Distance root t d) {e : Nat}
    (he : e ≤ d) : ∃ p, g.Distance root p e := by
  induction d generalizing t with
  | zero =>
    obtain rfl : e = 0 := by omega
    exact ⟨t, h⟩
  | succ d ih =>
    by_cases hlast : e = d + 1
    · exact ⟨t, hlast ▸ h⟩
    · obtain ⟨p, hp, _⟩ := h.exists_edge
      exact ih hp (by omega)

theorem Distance.le_nodeCount (hg : g.Simple) {t : Slot} {d : Nat} (h : g.Distance root t d) :
    d ≤ g.nodeCount := by
  have hex : ∀ e < d, ∃ p, g.Distance root p (e + 1) := by
    intro e he
    exact h.exists_between (by omega)
  choose! p hp using hex
  have hlive : ∀ e ∈ Finset.range d, p e ∈ g.live := by
    intro e he
    obtain ⟨q, _, hq⟩ := (hp e (Finset.mem_range.mp he)).exists_edge
    exact (mem_live g _).mpr (hg.contains_right hq)
  have hinj : ∀ e ∈ Finset.range d, ∀ f ∈ Finset.range d, p e = p f → e = f := by
    intro e he f hf hef
    have hde := hp e (Finset.mem_range.mp he)
    have hdf := hp f (Finset.mem_range.mp hf)
    rw [hef] at hde
    have := hde.inj hdf
    omega
  calc d = (Finset.range d).card := (Finset.card_range d).symm
    _ ≤ g.live.card := Finset.card_le_card_of_injOn p hlive hinj
    _ = g.nodeCount := card_live g

/-- All nodes up to a depth have been seen, and those at the depth make up the layer. -/
structure Frontier (g : Graph) (root : Slot) (depth : Nat) (seen layer : List Slot) : Prop where
  seen : ∀ t, t ∈ seen ↔ ∃ e ≤ depth, g.Distance root t e
  layer : ∀ t, t ∈ layer ↔ g.Distance root t depth

theorem frontier_start (g : Graph) (root : Slot) : g.Frontier root 0 [root] [root] := by
  have hstart (t : Slot) : t ∈ [root] ↔ g.Distance root t 0 := by
    rw [List.mem_singleton]
    constructor
    · rintro rfl
      exact ⟨.here, fun e _ => Nat.zero_le e⟩
    · rintro ⟨w, _⟩
      cases w
      rfl
  refine ⟨fun t => ?_, hstart⟩
  simp [hstart t]

theorem mem_nextLayer (g : Graph) (seen layer : List Slot) (t : Slot) :
    t ∈ g.nextLayer seen layer ↔ (∃ p ∈ layer, g.Edge p t) ∧ t ∉ seen := by
  simp [nextLayer, List.mem_eraseDups, mem_children, Edge]

namespace Frontier

variable {depth : Nat} {seen layer : List Slot}

theorem next (h : g.Frontier root depth seen layer) :
    g.Frontier root (depth + 1) (seen ++ g.nextLayer seen layer) (g.nextLayer seen layer) := by
  have hlayer (t : Slot) : t ∈ g.nextLayer seen layer ↔ g.Distance root t (depth + 1) := by
    rw [mem_nextLayer, h.seen]
    constructor
    · rintro ⟨⟨p, hp, hpt⟩, hnew⟩
      have hway := ((h.layer p).mp hp).way.step hpt
      refine ⟨hway, ?_⟩
      intro e he
      obtain ⟨k, hk, hdist⟩ := he.exists_distance
      by_contra hlt
      exact hnew ⟨k, by omega, hdist⟩
    · intro hdist
      obtain ⟨p, hp, hpt⟩ := hdist.exists_edge
      refine ⟨⟨p, (h.layer p).mpr hp, hpt⟩, ?_⟩
      rintro ⟨e, he, hearly⟩
      have := hdist.inj hearly
      omega
  refine ⟨fun t => ?_, hlayer⟩
  rw [List.mem_append, h.seen, hlayer]
  constructor
  · rintro (⟨e, he, hdist⟩ | hdist)
    · exact ⟨e, by omega, hdist⟩
    · exact ⟨depth + 1, Nat.le_refl _, hdist⟩
  · rintro ⟨e, he, hdist⟩
    by_cases hlast : e = depth + 1
    · exact .inr (hlast ▸ hdist)
    · exact .inl ⟨e, by omega, hdist⟩

theorem mem_layers (h : g.Frontier root depth seen layer) (rounds : Nat) (t : Slot) (d : Nat) :
    (t, d) ∈ g.layers rounds depth seen layer ↔
      g.Distance root t d ∧ depth ≤ d ∧ d < depth + rounds := by
  induction rounds generalizing depth seen layer with
  | zero =>
    simp only [layers, List.not_mem_nil, false_iff]
    omega
  | succ rounds ih =>
    rw [layers]
    by_cases hempty : layer.isEmpty = true
    · simp only [hempty, if_true, List.not_mem_nil, false_iff]
      -- A longer way would pass a node at the depth of the empty layer.
      rintro ⟨hdist, hle, _⟩
      obtain ⟨p, hp⟩ := hdist.exists_between hle
      have hmem := (h.layer p).mpr hp
      simp [List.isEmpty_iff.mp hempty] at hmem
    · have hhere : (t, d) ∈ layer.map (·, depth) ↔ g.Distance root t d ∧ d = depth := by
        simp only [List.mem_map, Prod.mk.injEq, h.layer]
        constructor
        · rintro ⟨_, hdist, rfl, rfl⟩
          exact ⟨hdist, rfl⟩
        · rintro ⟨hdist, rfl⟩
          exact ⟨t, hdist, rfl, rfl⟩
      simp only [hempty, Bool.false_eq_true, if_false, List.mem_append, hhere, ih h.next]
      constructor
      · rintro (⟨hdist, rfl⟩ | ⟨hdist, hle, hlt⟩)
        · exact ⟨hdist, by omega, by omega⟩
        · exact ⟨hdist, by omega, by omega⟩
      · rintro ⟨hdist, hle, hlt⟩
        by_cases hd : d = depth
        · exact .inl ⟨hdist, hd⟩
        · exact .inr ⟨hdist, by omega, by omega⟩

end Frontier

theorem Simple.mem_depthsFrom (hg : g.Simple) (t : Slot) (d : Nat) :
    (t, d) ∈ g.depthsFrom root ↔ g.Distance root t d := by
  rw [depthsFrom, (frontier_start g root).mem_layers]
  constructor
  · exact And.left
  · intro h
    have := h.le_nodeCount hg
    exact ⟨h, Nat.zero_le d, by omega⟩

theorem Simple.lookup_depthsFrom (hg : g.Simple) (t : Slot) (d : Nat) :
    (g.depthsFrom root).lookup t = some d ↔ g.Distance root t d := by
  have hmem (e : Nat) (he : (g.depthsFrom root).lookup t = some e) : g.Distance root t e := by
    obtain ⟨before, after, hsplit, _⟩ := List.lookup_eq_some_iff.mp he
    exact (hg.mem_depthsFrom t e).mp (by simp [hsplit])
  constructor
  · exact hmem d
  · intro h
    cases hlook : (g.depthsFrom root).lookup t with
    | none =>
      have := List.lookup_eq_none_iff.mp hlook (t, d) ((hg.mem_depthsFrom t d).mpr h)
      simp at this
    | some e => rw [h.inj (hmem e hlook)]

end PageGraph.Graph
