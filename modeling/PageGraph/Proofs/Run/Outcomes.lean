import PageGraph.Proofs.Build.Clashes
import PageGraph.Proofs.Run.PageModel

namespace PageGraph

open Markup

namespace Graph

def NamesApart (g : Graph) : Prop :=
  ∀ s t m n, g.node? s = some m → g.node? t = some n → m.name = n.name → s = t

theorem NamesApart.of_names {g h : Graph} (hg : g.NamesApart)
    (hnode : ∀ s m, h.node? s = some m → ∃ n, g.node? s = some n ∧ m.name = n.name) :
    h.NamesApart := by
  intro s t m n hm hn hname
  obtain ⟨m', hm', hsame⟩ := hnode s m hm
  obtain ⟨n', hn', hsame'⟩ := hnode t n hn
  exact hg s t m' n' hm' hn' (by rw [← hsame, ← hsame', hname])

theorem namesApart_graph (found : List Found) : (Found.graph found).NamesApart := by
  intro s t m n hm hn hname
  rw [Found.node?_graph] at hm hn
  have hs : s < ((Found.nodes found).map (·.name)).length := by
    rw [List.length_map]
    exact (List.getElem?_eq_some_iff.mp hm).1
  apply (List.getElem?_inj hs (Found.nodup_names found)).mp
  rw [List.getElem?_map, List.getElem?_map, hm, hn, Option.map_some, Option.map_some, hname]

theorem NamesApart.prune {g h : Graph} {config : PruneConfig} {r : PruneReport} (hg : g.NamesApart)
    (hsimple : g.Simple) (hok : g.prune config = .ok (h, r)) : h.NamesApart := by
  obtain ⟨pruned, report, hrun, p⟩ := prune_ok hsimple config
  rw [hrun, Except.ok.injEq, Prod.mk.injEq] at hok
  obtain ⟨rfl, _⟩ := hok
  refine hg.of_names fun s m hm => ?_
  obtain ⟨n, hn, hfixed⟩ := (torso_settled (p.torso hsimple)).node s m hm
  obtain ⟨_, _, hname, _⟩ := (Node.fixed_eq_iff m n).mp hfixed
  exact ⟨n, hn, hname⟩

theorem NamesApart.relabelled {g h : Graph} (hg : g.NamesApart) (hgh : Relabelled g h) :
    h.NamesApart := by
  refine hg.of_names fun s m hm => ?_
  obtain ⟨n, hn, hbare⟩ := hgh.exists_node hm
  obtain ⟨_, _, hname, _⟩ := (Node.bare_eq_iff m n).mp hbare
  exact ⟨n, hn, hname⟩

theorem Rooted.designatedRoot_eq_error_iff {g : Graph} (hg : g.Rooted) (e : GraphError) :
    g.designatedRoot = .error e ↔ e = .emptyGraph ∧ g.nodeCount = 0 := by
  by_cases hcount : g.nodeCount = 0
  · rw [Graph.designatedRoot, if_pos hcount, Except.error.injEq, eq_comm]
    exact (and_iff_left hcount).symm
  · obtain ⟨r, hr⟩ := hg.exists_designatedRoot_of_live hcount
    rw [hr]
    constructor
    · intro h
      cases h
    · rintro ⟨_, hzero⟩
      exact absurd hzero hcount

end Graph

namespace PageModel

theorem ofDocument_eq_error {config : Config} {d : Document} {e : GraphError} :
    ofDocument config d = .error e ↔
      Graph.ofDocument config.build d = .error e ∨
      ∃ raw, Graph.ofDocument config.build d = .ok raw ∧
        (raw.prune config.prune = .error e ∨
        ∃ pruned report, raw.prune config.prune = .ok (pruned, report) ∧
          (pruned.runChain classifierOrder).2 = .error e) := by
  rw [ofDocument, bind_eq_error]
  refine or_congr Iff.rfl (exists_congr fun raw => and_congr_right fun _ => ?_)
  rw [bind_eq_error, Prod.exists]
  refine or_congr Iff.rfl (exists_congr fun pruned => exists_congr fun report =>
    and_congr_right fun _ => ?_)
  rw [bind_eq_error]
  refine or_iff_left ?_
  rintro ⟨_, _, h⟩
  cases h

theorem ofDocument_eq_error_iff (config : Config) (d : Document) (e : GraphError) :
    ofDocument config d = .error e ↔
      (∃ m n, Clash (Found.nodes (Found.ofDocument config.build d)) m n ∧
        e = .duplicateNode n.id) ∨
      e = .emptyGraph ∧ ∃ raw pruned report, Graph.ofDocument config.build d = .ok raw ∧
        raw.prune config.prune = .ok (pruned, report) ∧ pruned.nodeCount = 0 := by
  rw [ofDocument_eq_error]
  refine or_congr (Graph.ofDocument_eq_error_iff config.build d e) ⟨?_, ?_⟩
  · rintro ⟨raw, hraw, hfail | ⟨pruned, report, hprune, hchain⟩⟩
    · obtain ⟨_, _, hok, _⟩ := Graph.prune_ok (Graph.rooted_ofDocument hraw).simple config.prune
      rw [hok] at hfail
      contradiction
    · have hpruned := ((Graph.rooted_ofDocument hraw).prune hprune).1
      obtain ⟨rfl, hcount⟩ := (hpruned.designatedRoot_eq_error_iff e).mp
        ((pruned.runChain_eq_error_iff e).mp hchain)
      exact ⟨rfl, raw, pruned, report, hraw, hprune, hcount⟩
  · rintro ⟨rfl, raw, pruned, report, hraw, hprune, hcount⟩
    have hpruned := ((Graph.rooted_ofDocument hraw).prune hprune).1
    refine ⟨raw, hraw, .inr ⟨pruned, report, hprune, (pruned.runChain_eq_error_iff _).mpr ?_⟩⟩
    exact (hpruned.designatedRoot_eq_error_iff _).mpr ⟨rfl, hcount⟩

theorem ofDocument_outcomes (config : Config) (d : Document) :
    (∀ e, ofDocument config d = .error e ↔
      (∃ m n, Clash (Found.nodes (Found.ofDocument config.build d)) m n ∧
        e = .duplicateNode n.id) ∨
      e = .emptyGraph ∧ ∃ raw pruned report, Graph.ofDocument config.build d = .ok raw ∧
        raw.prune config.prune = .ok (pruned, report) ∧ pruned.nodeCount = 0) ∧
    ofDocument config d ≠ .error .noRoot ∧
    (∀ id, ofDocument config d ≠ .error (.missingNode id)) ∧
    ((Found.nodes (Found.ofDocument config.build d)).map (·.name)).Nodup ∧
    (∀ raw, Graph.ofDocument config.build d = .ok raw →
      raw = Found.graph (Found.ofDocument config.build d) ∧ raw.NamesApart) ∧
    (∀ model, ofDocument config d = .ok model → model.graph.NamesApart) ∧
    ∀ tag tag' count count' classes classes',
      (∀ w ∈ classes, ∀ c ∈ w.toList, Text.isBlank c = false) →
      (∀ w ∈ classes', ∀ c ∈ w.toList, Text.isBlank c = false) →
      nodeName tag count classes = nodeName tag' count' classes' →
      tag = tag' ∧ count = count' ∧ classes = classes' := by
  have herror := ofDocument_eq_error_iff config d
  have hraw {raw : Graph} (hok : Graph.ofDocument config.build d = .ok raw) :
      raw = Found.graph (Found.ofDocument config.build d) ∧ raw.NamesApart := by
    obtain rfl := Found.eq_graph_of_ok hok
    exact ⟨rfl, Graph.namesApart_graph _⟩
  refine ⟨herror, ?_, ?_, Found.nodup_names _, fun _ => hraw, ?_, ?_⟩
  · rw [Ne, herror]
    rintro (⟨_, _, _, h⟩ | ⟨h, _⟩)
    · cases h
    · cases h
  · intro id
    rw [Ne, herror]
    rintro (⟨_, _, _, h⟩ | ⟨h, _⟩)
    · cases h
    · cases h
  · intro model hok
    obtain ⟨raw, pruned, hbuilt, hprune, hchain⟩ := ofDocument_eq_ok.mp hok
    have hpruned := (hraw hbuilt).2.prune (Graph.rooted_ofDocument hbuilt).simple hprune
    exact hpruned.relabelled (Graph.relabelled_runChain hchain)
  · intro _ _ _ _ _ _ hclasses hclasses' hname
    exact nodeName_inj hclasses hclasses' hname

def namesakes : String :=
  "<b class=\"act\">a</b><b class=\"cw9\">b</b>"

theorem ofDocument_outcomes_namesakes :
    ofPage {} namesakes = .error (.duplicateNode "b_49612275") ∧
      ofPage {} "" = .error .emptyGraph ∧
      nodeName "b_1" 0 ["act"] ≠ nodeName "b" 1 ["act"] := by
  obtain ⟨herror, _, _, _, _, _, hinj⟩ := ofDocument_outcomes {} (.parse namesakes)
  obtain ⟨hempty, _⟩ := ofDocument_outcomes {} (.parse "")
  refine ⟨(herror _).mpr (.inl ?_), (hempty _).mpr (.inr ⟨rfl, ?_⟩), ?_⟩
  · let m : Node := ⟨"b_49612275", "b", "b_0_[\"act\"]", 1, ["act"], some { text := "a" }, false,
      .empty, some 0⟩
    let n : Node := ⟨"b_49612275", "b", "b_1_[\"cw9\"]", 3, ["cw9"], some { text := "b" }, false,
      .empty, some 0⟩
    have hm : (Found.nodes (Found.ofDocument {} (.parse namesakes)))[1]? = some m := by
      decide +kernel
    have hn : (Found.nodes (Found.ofDocument {} (.parse namesakes)))[3]? = some n := by
      decide +kernel
    have hnodup := (Found.nodup_ids_iff ((Found.ofDocument {} (.parse namesakes)).take 3)).mpr
      (by decide +kernel)
    exact ⟨m, n, Found.clash_of_getElem? (by decide) hm hn hnodup rfl, rfl⟩
  · have hbuilt := @Found.ok_of_pairwise {} (.parse "") (by decide +kernel)
    obtain ⟨pruned, report, hok, _⟩ := Graph.prune_ok (Graph.rooted_ofDocument hbuilt).simple {}
    have hrun : ((Found.graph (Found.ofDocument {} (.parse ""))).prune {}).map
        (fun p => p.1.nodeCount) = .ok 0 := by decide +kernel
    rw [hok, Except.map, Except.ok.injEq] at hrun
    exact ⟨_, _, _, hbuilt, hok, hrun⟩
  · intro hname
    have hclass : ∀ w ∈ ["act"], ∀ c ∈ w.toList, Text.isBlank c = false := by
      intro w hw c hc
      rw [List.mem_singleton.mp hw] at hc
      have hletters : "act".toList.all (!Text.isBlank ·) = true := by decide +kernel
      simpa using List.all_eq_true.mp hletters c hc
    obtain ⟨htag, _⟩ := hinj _ _ _ _ _ _ hclass hclass hname
    revert htag
    decide

end PageModel

end PageGraph
