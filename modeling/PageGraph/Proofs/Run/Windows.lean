import PageGraph.Proofs.Query.Window
import PageGraph.Proofs.Run.HopRange
import PageGraph.Proofs.Run.Reached
import PageGraph.Proofs.Search.Anchors

namespace PageGraph

namespace Graph

theorem mem_ranked_of_mem_nearest {g : Graph} {p : Plan} {anchor : Slot} {m : Neighbour}
    (hm : m ∈ g.nearest p (g.candidatesFor p) anchor) : m ∈ g.ranked p anchor := by
  cases hranked : g.ranked p anchor with
  | nil =>
    rw [nearest, ← ranked, hranked] at hm
    contradiction
  | cons best others =>
    have hfirst : best ∈ g.ranked p anchor := by simp [hranked]
    obtain ⟨_, _, _, heq⟩ := nearest_eq hfirst
    rw [heq] at hm
    exact hranked ▸ (List.mem_filter.mp (List.mem_of_mem_take hm)).1

theorem id_of_near? {g : Graph} {p : Plan} {way : List Slot} {s : Slot} {n : Node} {m : Neighbour}
    (h : (g.candidateOf p s n).near? way = some m) : m.id = n.id := by
  obtain ⟨_, _, rfl⟩ := Option.map_eq_some_iff.mp h
  rfl

namespace Consistent

variable {g : Graph} (hg : g.Consistent) (p : Plan)
include hg

theorem lookup_anchor {m : TextMatch} {window : UInt64} {as : List Anchor} {a : Anchor}
    (has : g.anchors m window = .ok as) (ha : a ∈ as) : ∃ n, g.lookup a.id = .ok n := by
  obtain ⟨n, hn, hid⟩ := node?_of_mem_anchors has ha
  exact ⟨n, hid ▸ hg.lookup_eq_ok hn⟩

theorem lookup_neighbour {anchor : Slot} {m : Neighbour}
    (hm : m ∈ g.nearest p (g.candidatesFor p) anchor) : ∃ n, g.lookup m.id = .ok n := by
  obtain ⟨s, n, _, hn, hnear⟩ := mem_ranked.mp (mem_ranked_of_mem_nearest hm)
  exact ⟨n, id_of_near? hnear ▸ hg.lookup_eq_ok hn⟩

end Consistent

end Graph

theorem PageModel.reached {config : Config} {page : String} {model : PageModel}
    (h : ofPage config page = .ok model) : model.graph.Reached := by
  obtain ⟨raw, pruned, hraw, hprune, hchain⟩ := ofDocument_eq_ok.mp h
  have hreached := ((Graph.Reached.built hraw).prune hprune).runChain classifierOrder
  rwa [hchain] at hreached

namespace QueryAnswer

structure IsWindow (w whole : QueryAnswer) (model : PageModel) (skip limit : Nat) : Prop where
  graph : w.graph = whole.graph
  prune : w.prune = whole.prune
  classify : w.classify = whole.classify
  anchorCount : w.anchorCount = whole.anchorCount
  length : w.results.length = min limit (w.anchorCount - skip)
  nodup : (w.results.map (·.anchor)).Nodup
  size : (Std.HashMap.ofList w.byAnchor).size = w.results.length
  byAnchor : ∀ r ∈ w.results, (Std.HashMap.ofList w.byAnchor)[r.anchor]? = some r.neighbours
  anchors : ∀ r ∈ w.results, ∃ n, model.graph.lookup r.anchor = .ok n
  neighbours : ∀ r ∈ w.results, ∀ m ∈ r.neighbours, ∃ n, model.graph.lookup m.id = .ok n

theorem pairwise_byAnchor {w : QueryAnswer} (h : (w.results.map (·.anchor)).Nodup) :
    w.byAnchor.Pairwise fun a b => (a.1 == b.1) = false := by
  rw [byAnchor, List.pairwise_map]
  refine (List.pairwise_map.mp h).imp ?_
  intro a b hne
  exact beq_false_of_ne hne

def lines (g : Graph) (p : Plan) (anchors : List Anchor) : List AnchorMatches :=
  anchors.map fun a => ⟨a.id, a.hit, g.nearest p (g.candidatesFor p) a.slot⟩

section Window

variable (stages : List Stage) (page : String) (model : PageModel) (anchors : List Anchor)
  (plan : Plan) {a b : Nat}
  (ha : a < 2 ^ 64) (hb : b < 2 ^ 64)
include ha hb

theorem results_window :
    (ofModel stages page model anchors (plan.window a.toUInt64 b.toUInt64)).results =
      ((lines model.graph plan anchors).drop a).take b := by
  have hskip : a.toUInt64.toNat = a := UInt64.toNat_ofNat_of_lt' ha
  have hlimit : b.toUInt64.toNat = b := UInt64.toNat_ofNat_of_lt' hb
  rw [lines, ← List.map_drop, ← List.map_take, ofModel, Graph.matchAnchors, Plan.window, hskip,
    hlimit]
  rfl

theorem isWindow_ofModel (hg : model.graph.Consistent) {window : UInt64}
    (hanchors : model.graph.anchors plan.textMatch window = .ok anchors) :
    (ofModel stages page model anchors (plan.window a.toUInt64 b.toUInt64)).IsWindow
      (ofModel stages page model anchors plan) model a b := by
  have hresults := results_window stages page model anchors plan ha hb
  have hlines : ∀ r ∈ (ofModel stages page model anchors (plan.window a.toUInt64 b.toUInt64)).results,
      ∃ anchor ∈ anchors, r = ⟨anchor.id, anchor.hit,
        model.graph.nearest plan (model.graph.candidatesFor plan) anchor.slot⟩ := by
    intro r hr
    rw [hresults] at hr
    have hr := List.mem_of_mem_drop (List.mem_of_mem_take hr)
    obtain ⟨anchor, hanchor, rfl⟩ := List.mem_map.mp hr
    exact ⟨anchor, hanchor, rfl⟩
  have hnodup : ((ofModel stages page model anchors (plan.window a.toUInt64 b.toUInt64)).results.map
      (·.anchor)).Nodup := by
    rw [hresults]
    have hall := hg.nodup_ids_anchors hanchors
    have hids : (lines model.graph plan anchors).map (·.anchor) = anchors.map (·.id) := by
      rw [lines, List.map_map]
      rfl
    rw [← hids] at hall
    exact hall.sublist (((List.take_sublist _ _).trans (List.drop_sublist _ _)).map _)
  refine ⟨rfl, rfl, rfl, rfl, ?_, hnodup, ?_, ?_, ?_, ?_⟩
  · rw [hresults, List.length_take, List.length_drop, lines, List.length_map]
    rfl
  · rw [Std.HashMap.size_ofList (pairwise_byAnchor hnodup), byAnchor, List.length_map]
  · intro r hr
    apply Std.HashMap.getElem?_ofList_of_mem (beq_self_eq_true _) (pairwise_byAnchor hnodup)
    exact List.mem_map.mpr ⟨r, hr, rfl⟩
  · intro r hr
    obtain ⟨anchor, hanchor, rfl⟩ := hlines r hr
    exact hg.lookup_anchor hanchors hanchor
  · intro r hr m hm
    obtain ⟨anchor, _, rfl⟩ := hlines r hr
    exact hg.lookup_neighbour plan hm

end Window

theorem onPage_windows (config : Config) (text page : String) (q : Query) (answer : QueryAnswer)
    (hparse : Query.parse text = .ok q) (hskip : q.returns.skip = none)
    (hlimit : q.returns.limit = none) (hrun : onPage config text page = .ok answer) :
    ∃ model, PageModel.ofPage config page = .ok model ∧ ∃ run : Nat → Nat → QueryAnswer,
      (∀ a b, a < 2 ^ 64 → b < 2 ^ 64 →
        onPage config (Query.windowed text a b) page = .ok (run a b) ∧
        (run a b).IsWindow answer model a b) ∧
      run 0 config.search.topAnchors.toNat = answer ∧
      ∀ a b c, a + b + c < 2 ^ 64 →
        (run a b).results ++ (run (a + b) c).results = (run a (b + c)).results := by
  obtain ⟨plan, model, anchors, hplan, hmodel, hanchors, rfl⟩ := onPage_eq_ok.mp hrun
  obtain ⟨q', hq', hcompiled⟩ := Plan.ofText_eq_ok.mp hplan
  cases hparse.symm.trans hq'
  refine ⟨model, hmodel,
    fun a b => ofModel (.compile :: Stage.onPage) page model anchors
      (plan.window a.toUInt64 b.toUInt64), ?_, ?_, ?_⟩
  · intro a b ha hb
    have hwindow := Query.parse_windowed hparse hskip hlimit ha hb
    have hplanned := Plan.ofText_eq_ok.mpr ⟨_, hwindow, Query.plan_window hcompiled _ _⟩
    have hg := (PageModel.reached hmodel).consistent
    exact ⟨onPage_eq_ok.mpr ⟨_, model, anchors, hplanned, hmodel, hanchors, rfl⟩,
      isWindow_ofModel _ page model anchors plan ha hb hg hanchors⟩
  · have hall := Query.window_eq_plan hcompiled hskip hlimit
    simp only [Nat.toUInt64_eq, UInt64.ofNat_toNat]
    exact congrArg (ofModel _ page model anchors) hall
  · intro a b c hsum
    rw [results_window _ page model anchors plan (by omega) (by omega),
      results_window _ page model anchors plan (by omega) (by omega),
      results_window _ page model anchors plan (by omega) (by omega), List.take_add, List.drop_drop]

theorem onPage_windows_linkedHeading :
    ∃ u v w, onPage {} (Query.windowed rangedQuery 0 1) linkedHeading = .ok u ∧
      onPage {} (Query.windowed rangedQuery 1 1) linkedHeading = .ok v ∧
      onPage {} (Query.windowed rangedQuery 0 2) linkedHeading = .ok w ∧
      u.results ++ v.results = w.results ∧ w.results.length = 1 := by
  obtain ⟨model, anchors, hmodel, hanchors, hdist⟩ := exists_model_linkedHeading
  have hanswer : onPage {} rangedQuery linkedHeading =
      .ok (ofModel (.compile :: Stage.onPage) linkedHeading model anchors linkPlan) :=
    onPage_eq_ok.mpr ⟨linkPlan, model, anchors, ofText_rangedQuery, hmodel, hanchors, rfl⟩
  obtain ⟨_, _, run, hrun, hwhole, htiled⟩ :=
    onPage_windows {} rangedQuery linkedHeading _ _ parse_rangedQuery rfl rfl hanswer
  obtain ⟨hu, _⟩ := hrun 0 1 (by decide) (by decide)
  obtain ⟨hv, _⟩ := hrun 1 1 (by decide) (by decide)
  obtain ⟨hw, hwindow⟩ := hrun 0 2 (by decide) (by decide)
  refine ⟨_, _, _, hu, hv, hw, htiled 0 1 1 (by decide), ?_⟩
  have hone : (ofModel (.compile :: Stage.onPage) linkedHeading model anchors
      linkPlan).results.length = 1 := by
    have hlength := congrArg List.length hdist
    rwa [List.length_map] at hlength
  have htop : ({} : Config).search.topAnchors.toNat = 10000 := rfl
  have hall := (hrun 0 10000 (by decide) (by decide)).2.length
  rw [htop] at hwhole
  rw [hwhole, hone] at hall
  rw [hwindow.length, hwindow.anchorCount]
  omega

end QueryAnswer

end PageGraph
