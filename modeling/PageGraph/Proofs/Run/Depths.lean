import PageGraph.Proofs.Graph.ForestDepth
import PageGraph.Proofs.Run.PageModel

namespace PageGraph.Graph

open Markup

namespace Threaded

variable {g : Graph} (hg : g.Threaded)
include hg

theorem mem_depthsFrom_iff (root s : Slot) (d : Nat) :
    (s, d) ∈ g.depthsFrom root ↔ g.hops? s root = some d := by
  rw [hg.simple.mem_depthsFrom, hg.distance_iff]

theorem lookup_depthsFrom (root s : Slot) :
    (g.depthsFrom root).lookup s = g.hops? s root := by
  ext d
  rw [hg.simple.lookup_depthsFrom, hg.distance_iff]

theorem exists_depth_iff (root s : Slot) :
    (∃ d, (s, d) ∈ g.depthsFrom root) ↔ g.isAncestor root s = true := by
  rw [isAncestor_iff hg.acyclic_up]
  constructor
  · rintro ⟨d, hd⟩
    have hhops := (hg.mem_depthsFrom_iff root s d).mp hd
    exact List.mem_of_getElem? (hops?_eq_some_imp hhops)
  · intro habove
    obtain ⟨d, hd⟩ := exists_hops? habove
    exact ⟨d, (hg.mem_depthsFrom_iff root s d).mpr hd⟩

end Threaded

theorem depthsFrom_hops :
    (∀ g : Graph, g.Threaded → ∀ root s,
      ((∃ d, (s, d) ∈ g.depthsFrom root) ↔ g.isAncestor root s = true) ∧
      (∀ d, (s, d) ∈ g.depthsFrom root ↔ g.hops? s root = some d) ∧
      (g.depthsFrom root).lookup s = g.hops? s root) ∧
    (∀ config d g, ofDocument config d = .ok g → g.Threaded) ∧
    (∀ g : Graph, g.Forest → ∀ config h report, g.prune config = .ok (h, report) → h.Threaded) ∧
    ∀ config d model, PageModel.ofDocument config d = .ok model → model.graph.Threaded := by
  refine ⟨?_, ?_, ?_, ?_⟩
  · intro g hg root s
    exact ⟨hg.exists_depth_iff root s, hg.mem_depthsFrom_iff root s, hg.lookup_depthsFrom root s⟩
  · intro config d g hbuilt
    exact (rooted_ofDocument hbuilt).threaded
  · intro g hg config h report hprune
    exact hg.threaded_prune hprune
  · intro config d model hok
    exact (PageModel.rooted_of_ok hok).threaded

def nestedList : Graph where
  slots := #[
    some ⟨"ul_1", "ul", "ul", 0, [], none, true, .empty, none⟩,
    some ⟨"p_1", "p", "p", 1, [], none, true, .empty, none⟩,
    some ⟨"li_1", "li", "li", 2, [], none, false, .empty, some 0⟩,
    some ⟨"ol_1", "ol", "ol", 3, [], none, false, .empty, some 2⟩,
    some ⟨"li_2", "li", "li", 4, [], none, false, .empty, some 3⟩]
  free := []
  edges := [(2, 3), (3, 4), (0, 2)]

theorem forest_nestedList : nestedList.Forest :=
  forest_of_rank ⟨by decide, by decide⟩ (by decide) id (by decide)

theorem threaded_nestedList : nestedList.Threaded := by
  refine forest_nestedList.threaded fun s n hn => ?_
  have hall : ∀ s < 5, ∀ n ∈ nestedList.node? s, n.parent = (nestedList.parents s).head? := by
    decide
  exact hall s (lt_size_of_node? nestedList s n hn) n hn

theorem depthsFrom_hops_nestedList :
    nestedList.Threaded ∧ nestedList.isAncestor 0 4 = true ∧ (4, 3) ∈ nestedList.depthsFrom 0 ∧
      (¬ ∃ d, (4, d) ∈ nestedList.depthsFrom 1) ∧
      (∃ h report, nestedList.prune {} = .ok (h, report) ∧ h.Threaded) ∧
      ∃ raw, ofDocument {} PageModel.homePage = .ok raw ∧ raw.Threaded := by
  obtain ⟨hagree, hbuilt, hpruned, _⟩ := depthsFrom_hops
  obtain ⟨habove, hdepth, _⟩ := hagree nestedList threaded_nestedList 0 4
  obtain ⟨hbelow, _, _⟩ := hagree nestedList threaded_nestedList 1 4
  have hhops : nestedList.hops? 4 0 = some 3 := by decide
  have hentry := (hdepth 3).mpr hhops
  refine ⟨threaded_nestedList, habove.mp ⟨3, hentry⟩, hentry, ?_, ?_, ?_⟩
  · rw [hbelow]
    decide
  · obtain ⟨h, report, hok, _⟩ := prune_ok forest_nestedList.simple {}
    exact ⟨_, _, hok, hpruned _ forest_nestedList _ _ _ hok⟩
  · obtain ⟨raw, _, hraw, _⟩ := PageModel.ofDocument_homePage
    exact ⟨raw, hraw, hbuilt _ _ _ hraw⟩

end PageGraph.Graph
