import Mathlib.Algebra.BigOperators.Group.Finset.Basic
import Mathlib.Algebra.Order.BigOperators.Group.Finset
import PageGraph.Proofs.Graph.Torso

namespace PageGraph.Graph

theorem inDegree_eq_zero_iff (g : Graph) (s : Slot) : g.inDegree s = 0 ↔ ∀ r, ¬ g.Edge r s := by
  rw [inDegree, List.length_eq_zero_iff, List.eq_nil_iff_forall_not_mem]
  exact forall_congr' fun r => not_congr (mem_parents g s r)

theorem outDegree_eq_zero_iff (g : Graph) (s : Slot) : g.outDegree s = 0 ↔ ∀ t, ¬ g.Edge s t := by
  rw [outDegree, List.length_eq_zero_iff, List.eq_nil_iff_forall_not_mem]
  exact forall_congr' fun t => not_congr (mem_children g s t)

theorem Simple.inDegree_eq_card {g : Graph} (hg : g.Simple) (s : Slot) :
    g.inDegree s = (g.edges.toFinset.filter (·.2 = s)).card := by
  rw [inDegree, parents, List.length_map, ← List.toFinset_card_of_nodup (hg.nodup.filter _),
    List.toFinset_filter]
  simp only [decide_eq_true_eq]

theorem Simple.outDegree_eq_card {g : Graph} (hg : g.Simple) (s : Slot) :
    g.outDegree s = (g.edges.toFinset.filter (·.1 = s)).card := by
  rw [outDegree, children, List.length_map, ← List.toFinset_card_of_nodup (hg.nodup.filter _),
    List.toFinset_filter]
  simp only [decide_eq_true_eq]

theorem Simple.sum_inDegree {g : Graph} (hg : g.Simple) (A : Finset Slot) :
    ∑ s ∈ A, g.inDegree s = (g.edges.toFinset.filter (·.2 ∈ A)).card := by
  simp only [hg.inDegree_eq_card]
  exact Finset.sum_card_fiberwise_eq_card_filter _ A Prod.snd

theorem Simple.sum_outDegree {g : Graph} (hg : g.Simple) (A : Finset Slot) :
    ∑ s ∈ A, g.outDegree s = (g.edges.toFinset.filter (·.1 ∈ A)).card := by
  simp only [hg.outDegree_eq_card]
  exact Finset.sum_card_fiberwise_eq_card_filter _ A Prod.fst

theorem Simple.closed_of_balanced {g : Graph} (hg : g.Simple) (A : Finset Slot)
    (henter : ∀ s t, g.Edge s t → t ∈ A → s ∈ A)
    (hbal : ∀ s ∈ A, g.inDegree s = g.outDegree s) (s t : Slot) (he : g.Edge s t) (hs : s ∈ A) :
    t ∈ A := by
  have hsub : g.edges.toFinset.filter (·.2 ∈ A) ⊆ g.edges.toFinset.filter (·.1 ∈ A) := by
    intro e hm
    obtain ⟨hm, h2⟩ := Finset.mem_filter.mp hm
    exact Finset.mem_filter.mpr ⟨hm, henter e.1 e.2 (List.mem_toFinset.mp hm) h2⟩
  -- As many edges start in the set as end in it.
  have hcard : (g.edges.toFinset.filter (·.1 ∈ A)).card ≤
      (g.edges.toFinset.filter (·.2 ∈ A)).card := by
    rw [← hg.sum_inDegree, ← hg.sum_outDegree, Finset.sum_congr rfl hbal]
  have hmem : (s, t) ∈ g.edges.toFinset.filter (·.1 ∈ A) :=
    Finset.mem_filter.mpr ⟨List.mem_toFinset.mpr he, hs⟩
  rw [← Finset.eq_of_subset_of_card_le hsub hcard] at hmem
  exact (Finset.mem_filter.mp hmem).2

end PageGraph.Graph
