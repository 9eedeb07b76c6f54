import PageGraph.Proofs.Graph.Distance
import PageGraph.Proofs.Graph.Forest
import PageGraph.Proofs.Graph.LowestCommon

namespace PageGraph.Graph

variable {g : Graph}

namespace Threaded

theorem way_iff (hg : g.Threaded) (root s : Slot) (d : Nat) :
    g.Way root d s ↔ (g.ancestors s)[d]? = some root := by
  induction d generalizing s with
  | zero =>
    rw [← List.head?_eq_getElem?, head?_ancestors, Option.some.injEq]
    constructor
    · rintro ⟨⟩
      rfl
    · rintro rfl
      exact .here
  | succ d ih =>
    constructor
    · intro w
      cases w with
      | step w he =>
        have hup := (hg.parent _ _).mpr he
        rw [ancestors_of_up hg.acyclic_up hup, List.getElem?_cons_succ]
        exact (ih _).mp w
    · intro h
      cases hp : g.parent? s with
      | none => simp [ancestors, chain, hp] at h
      | some p =>
        rw [ancestors_of_up hg.acyclic_up hp, List.getElem?_cons_succ] at h
        exact ((ih p).mpr h).step ((hg.parent s p).mp hp)

theorem distance_iff (hg : g.Threaded) (root s : Slot) (d : Nat) :
    g.Distance root s d ↔ g.hops? s root = some d := by
  have hway (e : Nat) : g.Way root e s ↔ g.hops? s root = some e := by
    rw [hg.way_iff, hops?_eq_some_iff hg.acyclic_up]
  constructor
  · intro h
    exact (hway d).mp h.way
  · intro h
    refine ⟨(hway d).mpr h, fun e he => ?_⟩
    have hsame := h.symm.trans ((hway e).mp he)
    exact Nat.le_of_eq (Option.some.inj hsame)

end Threaded

namespace Rooted

theorem distance_iff (hg : g.Rooted) (root s : Slot) (d : Nat) :
    g.Distance root s d ↔ g.hops? s root = some d :=
  hg.threaded.distance_iff root s d

theorem exists_child_below (hg : g.Rooted) {s t : Slot} (ht : t ∈ g.ancestors s) (hne : t ≠ s) :
    ∃ c, c ∈ g.children t ∧ c ∈ g.ancestors s := by
  rcases Relation.ReflTransGen.cases_tail ((g.mem_ancestors_iff s t).mp ht) with
    rfl | ⟨c, hreach, hc⟩
  · contradiction
  · exact ⟨c, (g.mem_children t c).mpr ((hg.up_iff c t).mp hc),
      (g.mem_ancestors_iff s c).mpr hreach⟩

theorem two_le_outDegree (hg : g.Rooted) {a b t : Slot} (h : g.LowestCommon a b t)
    (ha : t ≠ a) (hb : t ≠ b) : 2 ≤ g.outDegree t := by
  obtain ⟨c, hc, hca⟩ := hg.exists_child_below h.left ha
  obtain ⟨e, he, heb⟩ := hg.exists_child_below h.right hb
  -- One child above both would be a common ancestor below the lowest one.
  have hne : c ≠ e := by
    rintro rfl
    have hup := (hg.up_iff c t).mpr ((g.mem_children t c).mp hc)
    have habove := (g.mem_ancestors_iff t c).mp (h.lowest c hca heb)
    exact hg.acyclic_up c (.head' hup habove)
  have hsub : [c, e].Subperm (g.children t) := by
    apply List.subperm_of_subset
    · simp [hne]
    · simp [hc, he]
  exact hsub.length_le

section Level

variable {root a b : Slot} {d : Nat} (hg : g.Rooted)
  (ha : g.Distance root a d) (hb : g.Distance root b d)

include hg ha hb

theorem exists_lca?_of_level : ∃ t, g.lca? a b = some t := by
  rw [distance_iff hg] at ha hb
  apply Option.isSome_iff_exists.mp
  exact (g.lca?_isSome_iff_exists a b).mpr
    ⟨root, List.mem_of_getElem? (hops?_eq_some_imp ha), List.mem_of_getElem? (hops?_eq_some_imp hb)⟩

theorem ne_of_level {t : Slot} (hne : a ≠ b) (h : g.LowestCommon a b t) : t ≠ a ∧ t ≠ b := by
  rw [distance_iff hg] at ha hb
  have hroot := h.lowest root (List.mem_of_getElem? (hops?_eq_some_imp ha))
    (List.mem_of_getElem? (hops?_eq_some_imp hb))
  obtain ⟨k, hk⟩ := exists_hops? hroot
  obtain ⟨i, hi⟩ := exists_hops? h.left
  obtain ⟨j, hj⟩ := exists_hops? h.right
  have hi' := Option.some.inj ((hops?_add hg.acyclic_up hi hk).symm.trans ha)
  have hj' := Option.some.inj ((hops?_add hg.acyclic_up hj hk).symm.trans hb)
  obtain rfl : i = j := by omega
  constructor
  · rintro rfl
    obtain rfl := Option.some.inj (hi.symm.trans (g.hops?_self t))
    exact hne (hops?_inj (g.hops?_self b) hj).symm
  · rintro rfl
    obtain rfl := Option.some.inj (hj.symm.trans (g.hops?_self t))
    exact hne (hops?_inj (g.hops?_self a) hi)

end Level

end Rooted

end PageGraph.Graph
