import PageGraph.Proofs.Build.Clashes
import PageGraph.Proofs.Classify.Chain
import PageGraph.Proofs.Run.PageModel

/-!
The graph of a given page, computed from the list of what is found on it. No table is kept on the
way, neither of the tags that occur nor of the votes for grids.
-/

namespace PageGraph.PageModel

theorem exists_of_computed (config : Config) (page : String) (root : Slot) (f : Graph → β) (b : β)
    (hids : (Found.nodes (Found.ofDocument config.build (.parse page))).Pairwise fun m n =>
      m.tag = n.tag → nameNumber m.name % 10 ^ 8 ≠ nameNumber n.name % 10 ^ 8)
    (hrun : ((Found.graph (Found.ofDocument config.build (.parse page))).prune config.prune).map
      (fun e => (e.1.designatedRoot, f (Graph.markAll (e.1.marked root) classifierOrder e.1).1)) =
        .ok (.ok root, b)) :
    ∃ model, ofPage config page = .ok model ∧ model.graph.designatedRoot = .ok root ∧
      f model.graph = b := by
  have hbuilt := Found.ok_of_pairwise hids
  obtain ⟨pruned, report, hprune, _⟩ :=
    Graph.prune_ok (Graph.rooted_ofDocument hbuilt).simple config.prune
  simp only [hprune, Except.map, Except.ok.injEq, Prod.mk.injEq] at hrun
  obtain ⟨hroot, hvalue⟩ := hrun
  have hchain := Graph.runChain_eq_markAll hroot
  refine ⟨⟨_, _, _⟩, ofDocument_eq_ok.mpr ⟨_, _, hbuilt, hprune, hchain⟩, ?_, hvalue⟩
  exact (Graph.relabelled_markAll _ _ _).designatedRoot.trans hroot

end PageGraph.PageModel
