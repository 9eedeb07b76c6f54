import PageGraph.Markup.Rules
import PageGraph.Proofs.Build.Clashes
import PageGraph.Proofs.Build.Nesting
import PageGraph.Proofs.Classify.Titles
import PageGraph.Proofs.Graph.Outline
import PageGraph.Proofs.Pruning.SiblingOrder

namespace PageGraph

namespace Found

theorem index_of_node? {found : List Found} {s : Slot} {n : Node}
    (hn : (graph found).node? s = some n) : n.index = s := by
  have hs : found[s]?.isSome = true := by
    rw [node?_graph, getElem?_nodes] at hn
    rw [← Option.isSome_map, hn, Option.isSome_some]
  obtain ⟨f, hf⟩ := Option.isSome_iff_exists.mp hs
  obtain ⟨m, hm, hindex, _⟩ := (lists_graph found).node s f hf
  cases hn.symm.trans hm
  exact hindex

theorem pairwise_children (found : List Found) (s : Slot) :
    ((graph found).children s).Pairwise (· < ·) :=
  ((pairwise_edges found).sublist List.filter_sublist).map _ fun _ _ h => h

end Found

namespace Graph

theorem prune_sibling_runs (build : BuildConfig) (config : PruneConfig) (d : Markup.Document)
    (raw : Graph) (hbuilt : ofDocument build d = .ok raw) :
    ∃ pruned report, raw.prune config = .ok (pruned, report) ∧
      (∀ s n, pruned.node? s = some n → n.index = s) ∧
      (∀ s, pruned.contains s = true →
        pruned.children s = (List.range (report.passes + 1)).flatMap
            (fun k => (raw.hung config s k).filter pruned.contains) ∧
          ∀ k ≤ report.passes, ((raw.hung config s k).filter pruned.contains).Pairwise (· < ·)) ∧
      (∀ s n, pruned.node? s = some n → n.isHeading = true → n.payload = none →
        pruned.labelTitles.graph.payloadAt s = some
          { text := " ".intercalate
              ((pruned.children s).filterMap fun c => (pruned.payloadAt c).map (·.text)) }) ∧
      ∀ s, pruned.outline s =
        (s, 0) :: ((pruned.children s).flatMap pruned.outline).map (deeper 1) := by
  have hraw := (rooted_ofDocument hbuilt).toForest
  have hgraph := Found.eq_graph_of_ok hbuilt
  have hpre : raw.InPreorder := hgraph ▸ Found.inPreorder_graph build d
  obtain ⟨h, r, hok, p⟩ := prune_ok hraw.simple config
  have ht := torso_settled (p.torso hraw.simple)
  have hforest := ((rooted_ofDocument hbuilt).prune hok).1.toForest
  have hpre' := hpre.torso ht hforest.simple
  refine ⟨h.settled, _, hok, ?_, ?_, ?_, hforest.outline_eq⟩
  · intro s m hm
    obtain ⟨n, hn, hfixed⟩ := ht.node s m hm
    obtain ⟨_, _, _, hindex, _⟩ := (Node.fixed_eq_iff m n).mp hfixed
    rw [hindex]
    rw [hgraph] at hn
    exact Found.index_of_node? hn
  · intro s hs
    rw [contains_settled] at hs
    obtain ⟨n, hpasses, hchildren, hruns⟩ := p.children_eq hraw hpre hs
    have hcontains : h.settled.contains = h.contains := funext h.contains_settled
    have hn : r.passes = n := by
      rw [hpasses]
      exact Nat.zero_add n
    rw [hcontains]
    refine ⟨hn ▸ hchildren, fun k hk => ?_⟩
    cases k with
    | zero =>
      refine List.Pairwise.sublist List.filter_sublist ?_
      rw [hung, hgraph]
      exact Found.pairwise_children _ s
    | succ k => exact hruns k (hn ▸ hk)
  · intro s n hn hhead hnone
    exact payloadAt_labelTitles hpre'.ascending hn hhead hnone

def boldHeading : String :=
  "<h2><b>Market</b> risks</h2>"

theorem prune_boldHeading :
    ∃ raw pruned report, ofDocument {} (.parse boldHeading) = .ok raw ∧
      raw.prune {} = .ok (pruned, report) ∧ pruned.children 1 = [4, 3] ∧
      (pruned.children 1).filterMap (fun c => (pruned.node? c).map (·.index)) = [4, 3] ∧
      pruned.labelTitles.graph.payloadAt 1 = some { text := "risks Market" } ∧
      pruned.outline 0 = [(0, 0), (1, 1), (4, 2), (3, 2)] := by
  have hbuilt := @Found.ok_of_pairwise {} (.parse boldHeading) (by decide +kernel)
  obtain ⟨pruned, report, hok, _⟩ := prune_ok (rooted_ofDocument hbuilt).simple {}
  have hrun : ((Found.graph (Found.ofDocument {} (.parse boldHeading))).prune {}).map (fun p =>
      (p.1.children 1, (p.1.children 1).filterMap (fun c => (p.1.node? c).map (·.index)),
        p.1.labelTitles.graph.payloadAt 1, p.1.outline 0)) =
      .ok ([4, 3], [4, 3], some { text := "risks Market" }, [(0, 0), (1, 1), (4, 2), (3, 2)]) := by
    decide +kernel
  simp only [hok, Except.map, Except.ok.injEq, Prod.mk.injEq] at hrun
  exact ⟨_, _, _, hbuilt, hok, hrun⟩

theorem prune_sibling_runs_boldHeading :
    ∃ raw pruned report, ofDocument {} (.parse boldHeading) = .ok raw ∧
      raw.prune {} = .ok (pruned, report) ∧
      [4, 3] = (List.range (report.passes + 1)).flatMap
        (fun k => (raw.hung {} 1 k).filter pruned.contains) ∧
      pruned.outline 1 = (1, 0) :: ([4, 3].flatMap pruned.outline).map (deeper 1) := by
  obtain ⟨raw, pruned, report, hbuilt, hprune, hchildren, _⟩ := prune_boldHeading
  obtain ⟨pruned', report', hok, _, hruns, _, houtline⟩ := prune_sibling_runs {} {} _ raw hbuilt
  obtain ⟨rfl, rfl⟩ := Prod.mk.inj (Except.ok.inj (hprune.symm.trans hok))
  have hlive : pruned.contains 1 = true := by
    have hedge : pruned.Edge 1 4 := (mem_children _ _ _).mp (by simp [hchildren])
    exact ((rooted_ofDocument hbuilt).prune hprune).1.simple.contains_left hedge
  rw [← hchildren]
  exact ⟨raw, pruned, report, hbuilt, hprune, (hruns 1 hlive).1, houtline 1⟩

theorem siblings_out_of_order :
    ∃ raw pruned report, ofDocument {} (.parse boldHeading) = .ok raw ∧
      raw.prune {} = .ok (pruned, report) ∧
      (pruned.children 1).filterMap (fun c => (pruned.node? c).map (·.index)) = [4, 3] ∧
      pruned.labelTitles.graph.payloadAt 1 = some { text := "risks Market" } ∧
      pruned.outline 0 = [(0, 0), (1, 1), (4, 2), (3, 2)] := by
  obtain ⟨raw, pruned, report, hbuilt, hprune, _, hrest⟩ := prune_boldHeading
  exact ⟨raw, pruned, report, hbuilt, hprune, hrest⟩

end Graph

end PageGraph
