import PageGraph.Proofs.Classify.Repetition
import PageGraph.Proofs.Run.Computed

namespace PageGraph

open Markup

namespace Graph

theorem labels_ofDocument {config : BuildConfig} {d : Document} {g : Graph}
    (h : ofDocument config d = .ok g) (s : Slot) (n : Node) (hn : g.node? s = some n) :
    n.labels = .empty := by
  rw [Found.eq_graph_of_ok h, Found.node?_graph, Found.getElem?_nodes] at hn
  obtain ⟨f, _, rfl⟩ := Option.map_eq_some_iff.mp hn
  rfl

theorem labels_prune {g h : Graph} {config : PruneConfig} {r : PruneReport} (hg : g.Simple)
    (hok : g.prune config = .ok (h, r)) {s : Slot} {m : Node} (hm : h.node? s = some m) :
    ∃ n, g.node? s = some n ∧ m.labels = n.labels := by
  obtain ⟨pruned, report, hrun, p⟩ := prune_ok hg config
  rw [hrun, Except.ok.injEq, Prod.mk.injEq] at hok
  obtain ⟨rfl, _⟩ := hok
  obtain ⟨n, hn, hfixed⟩ := (torso_settled (p.torso hg)).node s m hm
  obtain ⟨_, _, _, _, _, hlabels⟩ := (Node.fixed_eq_iff m n).mp hfixed
  exact ⟨n, hn, hlabels⟩

end Graph

namespace PageModel

open PageGraph.Graph

theorem ofDocument_chain_again (config : Config) (d : Document) (model : PageModel)
    (hok : ofDocument config d = .ok model) :
    ∃ raw pruned root again report,
      Graph.ofDocument config.build d = .ok raw ∧
      raw.prune config.prune = .ok (pruned, model.prune) ∧
      model.graph.designatedRoot = .ok root ∧
      model.graph.runChain classifierOrder = (again, .ok report) ∧
      (∀ s, again.node? s = (model.graph.node? s).map fun n =>
        { n with labels :=
            if s ∈ model.graph.lateGrids root then n.labels.addFront .grid else n.labels }) ∧
      (∀ s, s ∈ model.graph.lateGrids root ↔
        (∃ a b, model.graph.Vote root a b s) ∧ (¬ ∃ a b, pruned.Vote root a b s) ∧
          model.graph.children s ≠ [] ∧ model.graph.Uniform s Node.idPrefix ∧
          model.graph.Uniform s (·.labels.first?)) ∧
      report.labelled = [(.grid, (model.graph.lateGrids root).length), (.linkList, 0), (.title, 0),
        (.link, 0)] ∧
      ((∀ s n, pruned.node? s = some n → n.isHeading = true → n.payload.isSome = true) →
        report.total = 0 ∧ again = model.graph) := by
  obtain ⟨raw, pruned, hraw, hprune, hchain⟩ := ofDocument_eq_ok.mp hok
  have hrooted := rooted_ofDocument hraw
  have hg : pruned.Simple := (hrooted.prune hprune).1.simple
  have hblank : ∀ s n, pruned.node? s = some n → n.labels = .empty := by
    intro s n hn
    obtain ⟨m, hm, hlabels⟩ := labels_prune hrooted.simple hprune hn
    rw [hlabels, labels_ofDocument hraw s m hm]
  obtain ⟨root, c⟩ := Chained.of_runChain hchain
  have hroot : model.graph.designatedRoot = .ok root :=
    c.relabelled.designatedRoot.trans c.designated
  have c' : Chained model.graph _ root := ⟨hroot, rfl⟩
  refine ⟨raw, pruned, root, _, _, hraw, hprune, hroot, runChain_eq_markAll hroot, ?_, ?_, ?_, ?_⟩
  · exact c.node?_again c'
  · exact c.mem_lateGrids hg hblank
  · exact c.gained_again
  · intro hfilled
    have hnil := c.lateGrids_eq_nil hg hblank hfilled
    refine ⟨?_, c.eq_again c' hnil⟩
    rw [c.gained_again, hnil]
    rfl

def blankHeadings : String :=
  "<h2><img></h2><h2><img></h2>"

theorem exists_model_blankHeadings :
    ∃ model, ofPage {} blankHeadings = .ok model ∧ model.graph.designatedRoot = .ok 0 ∧
      model.graph.labelled .grid = [] ∧ model.graph.lateGrids 0 = [0] := by
  obtain ⟨model, hmodel, hroot, hvalue⟩ := exists_of_computed {} blankHeadings 0
    (fun g => (g.labelled .grid, g.lateGrids 0)) ([], [0]) (by decide +kernel) (by decide +kernel)
  exact ⟨model, hmodel, hroot, congrArg Prod.fst hvalue, congrArg Prod.snd hvalue⟩

theorem ofDocument_chain_again_blankHeadings :
    ∃ model again report, ofPage {} blankHeadings = .ok model ∧
      model.graph.runChain classifierOrder = (again, .ok report) ∧
      report.labelled = [(.grid, 1), (.linkList, 0), (.title, 0), (.link, 0)] := by
  obtain ⟨model, hok, hzero, _, hlate⟩ := exists_model_blankHeadings
  obtain ⟨_, _, root, again, report, _, _, hroot, hrun, _, _, hgained, _⟩ :=
    ofDocument_chain_again {} (.parse blankHeadings) model hok
  obtain rfl : root = 0 := Except.ok.inj (hroot.symm.trans hzero)
  rw [hlate] at hgained
  exact ⟨model, again, report, hok, hrun, hgained⟩

theorem chain_not_idempotent :
    ∃ model again report, ofPage {} blankHeadings = .ok model ∧
      model.graph.runChain classifierOrder = (again, .ok report) ∧ report.total = 1 ∧
      0 ∉ model.graph.labelled .grid ∧ 0 ∈ again.labelled .grid := by
  obtain ⟨model, hok, hzero, hgrids, hlate⟩ := exists_model_blankHeadings
  obtain ⟨_, _, _, _, hchain⟩ := ofDocument_eq_ok.mp hok
  obtain ⟨root, c⟩ := Chained.of_runChain hchain
  have hroot := c.relabelled.designatedRoot.trans c.designated
  obtain rfl : root = 0 := Except.ok.inj (hroot.symm.trans hzero)
  have c' : Chained model.graph _ 0 := ⟨hzero, rfl⟩
  have hin : 0 ∈ model.graph.lateGrids 0 := by simp [hlate]
  refine ⟨model, _, _, hok, runChain_eq_markAll hzero, ?_, by simp [hgrids], ?_⟩
  · rw [c.gained_again, hlate]
    rfl
  · have hlacks := (List.mem_filter.mp hin).2
    obtain ⟨labels, hlabels⟩ := (contains_iff_labelsAt _ _).mp ((lacks_iff _ _ _).mp hlacks).1
    rw [mem_labelled, c.labelsAt_again c', hlabels]
    exact ⟨_, rfl, by simp [hin, LabelSet.mem_addFront]⟩

end PageModel

end PageGraph
