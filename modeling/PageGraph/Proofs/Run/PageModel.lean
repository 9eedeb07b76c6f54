import PageGraph.Proofs.Build.Growth
import PageGraph.Proofs.Classify.Relabelling
import PageGraph.Proofs.Pruning.Forests
import PageGraph.Run

namespace PageGraph

open Markup Growth

namespace PageModel

theorem ofDocument_eq_ok {config : Config} {d : Document} {model : PageModel} :
    ofDocument config d = .ok model ↔ ∃ raw pruned,
      Graph.ofDocument config.build d = .ok raw ∧
      raw.prune config.prune = .ok (pruned, model.prune) ∧
      pruned.runChain classifierOrder = (model.graph, .ok model.classify) := by
  constructor
  · intro h
    obtain ⟨raw, hraw, h⟩ := bind_eq_ok.mp h
    obtain ⟨⟨pruned, prune⟩, hprune, h⟩ := bind_eq_ok.mp h
    obtain ⟨classify, hclassify, h⟩ := bind_eq_ok.mp h
    cases h
    exact ⟨raw, pruned, hraw, hprune, Prod.ext rfl hclassify⟩
  · rintro ⟨raw, pruned, hraw, hprune, hchain⟩
    simp only [ofDocument, hraw, hprune, hchain, bind, Except.bind, pure, Except.pure]

theorem rooted_of_ok {config : Config} {d : Document} {model : PageModel}
    (hok : ofDocument config d = .ok model) : model.graph.Rooted := by
  obtain ⟨raw, pruned, hraw, hprune, hchain⟩ := ofDocument_eq_ok.mp hok
  exact (Graph.relabelled_runChain hchain).rooted ((Graph.rooted_ofDocument hraw).prune hprune).1

theorem exists_of_kept {config : Config} {d : Document} {raw : Graph} {s : Slot} {n : Node}
    (hraw : Graph.ofDocument config.build d = .ok raw) (hn : raw.node? s = some n)
    (hk : config.prune.keeps n.tag = true) :
    ∃ model, ofDocument config d = .ok model ∧ model.graph.contains s = true := by
  have hg := Graph.rooted_ofDocument hraw
  obtain ⟨pruned, report, hprune, hp⟩ := Graph.prune_ok hg.simple config.prune
  have hs : pruned.settled.contains s = true := by
    rw [Graph.contains_settled]
    exact hp.kept hg.simple hn hk
  obtain ⟨r, hroot⟩ := (hg.prune hprune).1.designatedRoot s hs
  cases hchain : pruned.settled.runChain classifierOrder with
  | mk graph result =>
    cases result with
    | error e =>
      have herr := (pruned.settled.runChain_eq_error_iff e).mp (congrArg Prod.snd hchain)
      rw [hroot] at herr
      contradiction
    | ok classify =>
      refine ⟨⟨graph, _, classify⟩, ofDocument_eq_ok.mpr ⟨raw, _, hraw, hprune, hchain⟩, ?_⟩
      exact ((Graph.relabelled_runChain hchain).contains s).trans hs

theorem ofDocument_forest (config : Config) (d : Document) (model : PageModel)
    (hok : ofDocument config d = .ok model) :
    (∀ s n, model.graph.node? s = some n →
      (model.graph.parents s).length ≤ 1 ∧ n.parent = (model.graph.parents s).head? ∧
      (n.isRoot = true ↔ model.graph.parents s = [])) ∧
    (∀ s, ¬ Relation.TransGen model.graph.Edge s s) ∧
    model.graph.stats.edges + model.graph.stats.roots = model.graph.stats.nodes ∧
    model.graph.stats.roots = model.prune.roots ∧
    (∃ raw, Graph.ofDocument config.build d = .ok raw ∧
      model.graph.stats.nodes + model.prune.removed = raw.stats.nodes) ∧
    (∀ s, model.graph.contains s = true →
      (model.graph.ancestors s).head? = some s ∧
      (model.graph.ancestors s).IsChain (fun c p => model.graph.Edge p c) ∧
      (model.graph.ancestors s).Nodup ∧
      ∃ r ∈ model.graph.roots, (model.graph.ancestors s).getLast? = some r) ∧
    ∀ a b, (model.graph.lca? a b).isSome = true ↔
      (model.graph.ancestors a).getLast? = (model.graph.ancestors b).getLast? := by
  obtain ⟨raw, pruned, hraw, hprune, hchain⟩ := ofDocument_eq_ok.mp hok
  obtain ⟨hpruned, hroots, hcount⟩ := (Graph.rooted_ofDocument hraw).prune hprune
  have hrel := Graph.relabelled_runChain hchain
  have hg := hrel.rooted hpruned
  refine ⟨?_, hg.acyclic, hg.edgeCount_add_length_roots, ?_, ⟨raw, hraw, ?_⟩, ?_, ?_⟩
  · intro s n hn
    refine ⟨hg.inDegree_le_one s, hg.parent s n hn, ?_⟩
    rw [hg.isRoot s n hn, Graph.inDegree, List.length_eq_zero_iff]
  · change model.graph.roots.length = model.prune.roots
    rw [hrel.roots, hroots]
  · change model.graph.nodeCount + model.prune.removed = raw.nodeCount
    rw [hrel.nodeCount, hcount]
  · intro s hs
    exact ⟨model.graph.head?_ancestors s, hg.isChain_ancestors s,
      Graph.nodup_chain hg.acyclic_up _ s, hg.ancestors_end_root s hs⟩
  · exact Graph.lca?_isSome_iff hg.acyclic_up

def homeLink : Content :=
  .element "a" [("href", "/")] []

def homeBox : Content :=
  .element "div" [] [homeLink]

def homePage : Document where
  attributes := []
  children := [.element "head" [] [], .element "body" [] [homeBox]]

theorem ofDocument_homePage :
    ∃ raw n, Graph.ofDocument {} homePage = .ok raw ∧ raw.node? 2 = some n ∧ n.tag = "a" := by
  have hhead : Sprout.of? {} (.element "head" [] []) = none := by
    have hdenied : ({} : BuildConfig).deniesTag "head" = true := by decide +kernel
    simp [Sprout.of?, hdenied]
  obtain ⟨body, hbody, hbodytag, hbodyin⟩ := Sprout.exists_of_element {} "body" [] [homeBox]
    (by decide +kernel) (by decide +kernel)
  obtain ⟨box, hbox, hboxtag, hboxin⟩ := Sprout.exists_of_element {} "div" [] [homeLink]
    (by decide +kernel) (by decide +kernel)
  obtain ⟨link, hlink, hlinktag, hlinkin⟩ := Sprout.exists_of_element {} "a" [("href", "/")] []
    (by decide +kernel) (by decide +kernel)
  let g1 := grow {} body none
  let g2 := g1.grow box (some 0)
  have hg1 : g1.graph.Grown := grown_grow Graph.grown_empty body none (by simp)
  have hg2 : g2.graph.Grown := grown_grow hg1 box (some 0) (by
    rintro p ⟨⟩
    rfl)
  have hid1 : g1.graph.slotOf? (g1.nodeOf box (some 0)).id = none := by
    refine (Graph.slotOf?_planted_eq_none_iff ..).mpr ⟨rfl, ?_⟩
    apply id_ne_of_tag_ne <;> simp [hbodytag, hboxtag]
  have hid2 : g2.graph.slotOf? (g2.nodeOf link (some 1)).id = none := by
    refine (Graph.slotOf?_planted_eq_none_iff ..).mpr
      ⟨(Graph.slotOf?_planted_eq_none_iff ..).mpr ⟨rfl, ?_⟩, ?_⟩
    · apply id_ne_of_tag_ne <;> simp [hbodytag, hlinktag]
    · apply id_ne_of_tag_ne <;> simp [hboxtag, hlinktag]
  have hrun : run {} {} (homePage.children.map (·, none)) = .ok (g2.grow link (some 1)) := by
    simp only [homePage, List.map_cons, List.map_nil]
    rw [run_skip _ _ _ _ _ hhead, run_grow _ Graph.grown_empty _ _ _ body hbody rfl, hbodyin]
    change run {} g1 [(homeBox, some 0)] = _
    rw [homeBox, run_grow _ hg1 _ _ _ box hbox hid1, hboxin]
    change run {} g2 [(homeLink, some 1)] = _
    rw [homeLink, run_grow _ hg2 _ _ _ link hlink hid2, hlinkin]
    change run {} _ [] = _
    rw [run]
  refine ⟨(g2.grow link (some 1)).graph, g2.nodeOf link (some 1), ?_, rfl, hlinktag⟩
  rw [Graph.ofDocument, hrun]
  rfl

theorem ofDocument_forest_homePage :
    ∃ model, ofDocument {} homePage = .ok model ∧ model.graph.contains 2 = true ∧
      (∃ r ∈ model.graph.roots, (model.graph.ancestors 2).getLast? = some r) ∧
      model.graph.stats.edges + model.graph.stats.roots = model.graph.stats.nodes := by
  obtain ⟨raw, n, hraw, hn, htag⟩ := ofDocument_homePage
  have hkept : ({} : Config).prune.keeps n.tag = true := by
    rw [htag]
    decide
  obtain ⟨model, hok, hlive⟩ := exists_of_kept hraw hn hkept
  obtain ⟨_, _, hsum, _, _, hup, _⟩ := ofDocument_forest {} homePage model hok
  exact ⟨model, hok, hlive, (hup 2 hlive).2.2.2, hsum⟩

end PageModel

end PageGraph
