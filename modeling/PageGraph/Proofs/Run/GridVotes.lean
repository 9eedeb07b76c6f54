import PageGraph.Proofs.Classify.Votes
import PageGraph.Proofs.Run.Reclassification

namespace PageGraph

open Markup

namespace Graph

def GridsBranch (g : Graph) : Prop :=
  ∀ s ∈ g.labelled .grid, 2 ≤ g.outDegree s

namespace GridsBranch

variable {g : Graph}

theorem of_unlabelled (hblank : ∀ s n, g.node? s = some n → n.labels = .empty) :
    g.GridsBranch := by
  intro s hs
  obtain ⟨n, hn, hgrid⟩ := (g.mem_slotsWhere _ s).mp hs
  rw [hblank s n hn] at hgrid
  contradiction

theorem classify (h : g.GridsBranch) (hg : g.Rooted) {l : Label} {r : Labelling}
    (hok : g.classify l = .ok r) : r.graph.GridsBranch := by
  obtain ⟨root, -, rfl⟩ := (g.classify_eq_ok l r).mp hok
  intro s hs
  rw [outDegree, (g.relabelled_pass l _).children, ← outDegree]
  rcases (g.mem_labelled_pass_marked root l .grid s).mp hs with hs | ⟨rfl, hs⟩
  · exact h s hs
  · obtain ⟨-, ⟨a, b, hvote⟩, -⟩ := (hg.simple.mem_grids s).mp hs
    exact hvote.two_le_outDegree hg

theorem runChain (h : g.GridsBranch) (hg : g.Rooted) (ls : List Label) :
    (g.runChain ls).1.GridsBranch := by
  have hkept : (g.runChain ls).1.Rooted ∧ (g.runChain ls).1.GridsBranch := by
    refine classifyAll_keeps (P := fun k => k.Rooted ∧ k.GridsBranch) ?_ ⟨hg, h⟩ {} ls
    rintro k l r ⟨hk, hbranch⟩ hok
    exact ⟨(k.relabelled_classify l r hok).rooted hk, hbranch.classify hk hok⟩
  exact hkept.2

end GridsBranch

theorem ofDocument_prune_polled (config : Config) (d : Document) (raw pruned : Graph)
    (report : PruneReport) (hraw : ofDocument config.build d = .ok raw)
    (hprune : raw.prune config.prune = .ok (pruned, report)) (hlive : pruned.nodeCount ≠ 0) :
    ∃ root candidates, pruned.designatedRoot = .ok root ∧
      pruned.gridCandidates = .ok candidates ∧ pruned.Polled root candidates ∧
      ∀ ls, (pruned.runChain ls).1.GridsBranch := by
  have hrooted := rooted_ofDocument hraw
  have hg := (hrooted.prune hprune).1
  obtain ⟨root, hroot⟩ := hg.exists_designatedRoot_of_live hlive
  obtain ⟨candidates, hok, hpolled⟩ := hg.gridCandidates_polled hroot
  refine ⟨root, candidates, hroot, hok, hpolled, fun ls => ?_⟩
  apply GridsBranch.runChain _ hg
  apply GridsBranch.of_unlabelled
  intro s n hn
  obtain ⟨m, hm, hlabels⟩ := labels_prune hrooted.simple hprune hn
  rw [hlabels, labels_ofDocument hraw s m hm]

def threeParagraphs : String :=
  "<p>a<p>b<p>c"

theorem ofDocument_prune_polled_threeParagraphs :
    ∃ raw pruned report candidates, ofDocument {} (.parse threeParagraphs) = .ok raw ∧
      raw.prune {} = .ok (pruned, report) ∧ pruned.nodeCount = 4 ∧
      pruned.gridCandidates = .ok candidates ∧ pruned.Polled 0 candidates ∧
      candidates.map (·.slot) = [0] ∧ (candidates.map (·.incidence)).sum = 3 := by
  have hbuilt := @Found.ok_of_pairwise {} (.parse threeParagraphs) (by decide +kernel)
  obtain ⟨pruned, report, hprune, _⟩ := prune_ok (rooted_ofDocument hbuilt).simple {}
  have hrun : ((Found.graph (Found.ofDocument {} (.parse threeParagraphs))).prune {}).map
      (fun e => (e.1.nodeCount, e.1.designatedRoot, e.1.nodes.map (·.1), e.1.votes 0)) =
        .ok (4, .ok 0, [0, 1, 2, 3], [0, 0, 0]) := by
    decide +kernel
  simp only [hprune, Except.map, Except.ok.injEq, Prod.mk.injEq] at hrun
  obtain ⟨hcount, hzero, hslots, hvotes⟩ := hrun
  have hlive : pruned.settled.nodeCount ≠ 0 := by omega
  obtain ⟨root, candidates, hroot, hok, hpolled, _⟩ :=
    ofDocument_prune_polled {} (.parse threeParagraphs) _ _ _ hbuilt hprune hlive
  obtain rfl : root = 0 := Except.ok.inj (hroot.symm.trans hzero)
  refine ⟨_, _, _, candidates, hbuilt, hprune, hcount, hok, hpolled, ?_, ?_⟩
  · rw [map_slot_gridCandidates hzero hok, hslots, hvotes]
    rfl
  · have hg := ((rooted_ofDocument hbuilt).prune hprune).1
    rw [sum_incidence_gridCandidates hzero hok, hg.sum_count_votes, hvotes]
    rfl

end Graph

end PageGraph
