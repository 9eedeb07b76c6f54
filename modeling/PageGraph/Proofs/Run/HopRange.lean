import PageGraph.Proofs.Query.Compilation
import PageGraph.Proofs.Run.Computed
import PageGraph.Proofs.Search.Containment

/-!
The hop range of an edge. Its bounds must be in order, and the edge must have a direction; after
that the range is gone. A plan does not hold it, so that no match is kept or left out because of its
distance: what a match says is how far it lies above its anchor, whatever was asked for.
-/

namespace PageGraph

namespace Query

def HopRange.InOrder (h : HopRange) : Prop :=
  ∀ max, h.max = some max → h.min ≤ max

def EdgePattern.withHops (hops : Option HopRange) (e : EdgePattern) : EdgePattern :=
  { e with hops }

def Pattern.withHops (hops : Option HopRange) (p : Pattern) : Pattern :=
  { p with edges := p.edges.map (·.withHops hops) }

def withHops (hops : Option HopRange) (q : Query) : Query :=
  { q with patterns := q.patterns.map (·.withHops hops) }

theorem EdgePattern.Plain.withHops {e : EdgePattern} (he : e.Plain)
    (hdirected : e.direction ≠ .both) {hops : Option HopRange}
    (horder : ∀ range, hops = some range → range.InOrder) :
    (e.withHops hops).Plain :=
  ⟨he.untyped, fun _ _ => hdirected, horder⟩

theorem Pattern.roles_withHops {t a : NodePattern} {e : EdgePattern} (he : e.Plain)
    {hops : Option HopRange} (hplain : (e.withHops hops).Plain) :
    (Pattern.withHops hops ⟨[t, a], [e]⟩).roles = Pattern.roles ⟨[t, a], [e]⟩ := by
  have hbefore := e.check_eq_ok.mpr he
  have hafter := (e.withHops hops).check_eq_ok.mpr hplain
  simp only [withHops, List.map_cons, List.map_nil, roles, hbefore, hafter]
  rfl

theorem plan_withHops {q : Query} {t a : NodePattern} {e : EdgePattern}
    (hpattern : q.patterns = [⟨[t, a], [e]⟩]) (he : e.Plain) {hops : Option HopRange}
    (hplain : (e.withHops hops).Plain) (config : SearchConfig) :
    (q.withHops hops).plan config = q.plan config := by
  have hroles := Pattern.roles_withHops (t := t) (a := a) he hplain
  have hpatterns : (q.withHops hops).patterns = [Pattern.withHops hops ⟨[t, a], [e]⟩] := by
    rw [withHops, hpattern, List.map_singleton]
  simp only [plan, hpatterns, hpattern, onlyPattern, bind, Except.bind, hroles]
  rfl

theorem pair_of_plan {q : Query} {config : SearchConfig} {plan : Plan} {t a : NodePattern}
    {e : EdgePattern} (hpattern : q.patterns = [⟨[t, a], [e]⟩]) (hplan : q.plan config = .ok plan) :
    e.Plain ∧ plan.containing = true := by
  obtain ⟨pattern, honly, h⟩ := bind_eq_ok.mp hplan
  obtain ⟨⟨declared, anchor, anchorTypes, targetTypes, containing⟩, hroles, h⟩ := bind_eq_ok.mp h
  obtain ⟨c, _, h⟩ := bind_eq_ok.mp h
  obtain ⟨m, _, h⟩ := bind_eq_ok.mp h
  obtain ⟨⟨⟩, _, h⟩ := bind_eq_ok.mp h
  cases h
  have hsingle := (onlyPattern_eq_ok _ _).mp honly
  rw [hpattern] at hsingle
  cases hsingle
  obtain ⟨hasks, _, hedges, _⟩ := (Pattern.roles_eq_ok _ _).mp hroles
  refine ⟨hedges e List.mem_cons_self, ?_⟩
  cases hasks
  rfl

end Query

namespace Graph

theorem hops?_of_mem_nearest {g : Graph} (hg : ∀ s, ¬ Relation.TransGen g.Up s s) {p : Plan}
    (hcontaining : p.containing = true) {anchor : Slot} {m : Neighbour}
    (hm : m ∈ g.nearest p (g.candidatesFor p) anchor) :
    g.hops? anchor m.slot = some m.ancestorDist ∧ m.dist = m.ancestorDist := by
  have hkept : m ∈ g.ranked p anchor ∧ g.isAncestor m.slot anchor = true := by
    cases hranked : g.ranked p anchor with
    | nil =>
      rw [nearest, ← ranked, hranked] at hm
      contradiction
    | cons best others =>
      have hfirst : best ∈ g.ranked p anchor := by simp [hranked]
      obtain ⟨_, _, _, heq⟩ := nearest_eq hfirst
      rw [heq] at hm
      have hin := List.mem_filter.mp (List.mem_of_mem_take hm)
      simp only [hcontaining, Bool.and_eq_true, Bool.not_true, Bool.false_or] at hin
      exact ⟨hranked ▸ hin.1, hin.2.2⟩
  obtain ⟨hin, habove⟩ := hkept
  have hhops := hops?_of_mem_ranked hg hin habove
  obtain ⟨s, n, _, _, hnear⟩ := mem_ranked.mp hin
  obtain ⟨rfl, _, _⟩ := near?_eq_some hnear
  rw [near?_of_mem_ancestors n hhops, Option.some.injEq] at hnear
  refine ⟨hhops, ?_⟩
  rw [← hnear]

end Graph

theorem Plan.ofText_eq_ok {text : String} {config : SearchConfig} {plan : Plan} :
    ofText text config = .ok plan ↔ ∃ q, Query.parse text = .ok q ∧ q.plan config = .ok plan := by
  constructor
  · intro h
    obtain ⟨q, hq, h⟩ := bind_eq_ok.mp h
    exact ⟨q, mapError_eq_ok.mp hq, mapError_eq_ok.mp h⟩
  · rintro ⟨q, hq, h⟩
    exact bind_eq_ok.mpr ⟨q, mapError_eq_ok.mpr hq, mapError_eq_ok.mpr h⟩

namespace QueryAnswer

theorem onPage_eq_ok {config : Config} {query page : String} {answer : QueryAnswer} :
    onPage config query page = .ok answer ↔ ∃ plan model anchors,
      Plan.ofText query config.search = .ok plan ∧ PageModel.ofPage config page = .ok model ∧
      model.graph.anchors plan.textMatch config.search.window = .ok anchors ∧
      answer = ofModel (.compile :: Stage.onPage) page model anchors plan := by
  constructor
  · intro h
    obtain ⟨plan, hplan, h⟩ := bind_eq_ok.mp h
    obtain ⟨model, hmodel, h⟩ := bind_eq_ok.mp h
    obtain ⟨anchors, hanchors, h⟩ := bind_eq_ok.mp h
    exact ⟨plan, model, anchors, mapError_eq_ok.mp hplan, mapError_eq_ok.mp hmodel,
      mapError_eq_ok.mp hanchors, (Except.ok.inj h).symm⟩
  · rintro ⟨plan, model, anchors, hplan, hmodel, hanchors, rfl⟩
    have hcompiled : compile config query = .ok plan := mapError_eq_ok.mpr hplan
    refine bind_eq_ok.mpr ⟨plan, hcompiled, ?_⟩
    refine bind_eq_ok.mpr ⟨model, mapError_eq_ok.mpr hmodel, ?_⟩
    exact bind_eq_ok.mpr ⟨anchors, mapError_eq_ok.mpr hanchors, rfl⟩

theorem onPage_congr {config : Config} {query other : String} {plan : Plan}
    (hquery : Plan.ofText query config.search = .ok plan)
    (hother : Plan.ofText other config.search = .ok plan) (page : String) :
    onPage config other page = onPage config query page := by
  rw [onPage, onPage, compile, compile, hquery, hother]

theorem onPage_hop_range (config : Config) (text : String) (q : Query) (t a : Query.NodePattern)
    (e : Query.EdgePattern) (range : Query.HopRange) (plan : Plan)
    (hparse : Query.parse text = .ok q) (hpattern : q.patterns = [⟨[t, a], [e]⟩])
    (hrange : e.hops = some range) (hplan : Plan.ofText text config.search = .ok plan) :
    e.direction ≠ .both ∧ range.InOrder ∧
      (∀ hops, (∀ r, hops = some r → r.InOrder) →
        (q.withHops hops).plan config.search = .ok plan ∧
        ∀ other, Query.parse other = .ok (q.withHops hops) →
          ∀ page, onPage config other page = onPage config text page) ∧
      ∀ page answer, onPage config text page = .ok answer → ∃ model anchors,
        PageModel.ofPage config page = .ok model ∧
        model.graph.anchors plan.textMatch config.search.window = .ok anchors ∧
        ∀ r ∈ answer.results, ∃ anchor ∈ anchors, r.anchor = anchor.id ∧ ∀ m ∈ r.neighbours,
          model.graph.hops? anchor.slot m.slot = some m.ancestorDist ∧
          m.dist = m.ancestorDist := by
  have hcompiled : q.plan config.search = .ok plan := by
    obtain ⟨q', hq', h⟩ := Plan.ofText_eq_ok.mp hplan
    cases hparse.symm.trans hq'
    exact h
  obtain ⟨he, hcontaining⟩ := Query.pair_of_plan hpattern hcompiled
  have hdirected := he.directed range hrange
  refine ⟨hdirected, he.ordered range hrange, ?_, ?_⟩
  · intro hops horder
    have hsame : (q.withHops hops).plan config.search = .ok plan := by
      rw [Query.plan_withHops hpattern he (he.withHops hdirected horder), hcompiled]
    refine ⟨hsame, ?_⟩
    intro other hother
    exact onPage_congr hplan (Plan.ofText_eq_ok.mpr ⟨_, hother, hsame⟩)
  · intro page answer hanswer
    obtain ⟨plan', model, anchors, hplan', hmodel, hanchors, rfl⟩ := onPage_eq_ok.mp hanswer
    cases hplan.symm.trans hplan'
    refine ⟨model, anchors, hmodel, hanchors, ?_⟩
    intro r hr
    obtain ⟨anchor, hanchor, rfl⟩ := List.mem_map.mp hr
    refine ⟨anchor, List.mem_of_mem_drop (List.mem_of_mem_take hanchor), rfl, ?_⟩
    intro m hm
    exact Graph.hops?_of_mem_nearest (PageModel.rooted_of_ok hmodel).acyclic_up hcontaining hm

def rangedQuery : String :=
  "MATCH (t:Title)-[*2..3]->(l:Link) WHERE l.text CONTAINS \"risks\" RETURN t"

def plainQuery : String :=
  "MATCH (t:Title)-->(l:Link) WHERE l.text CONTAINS \"risks\" RETURN t"

def tightQuery : String :=
  "MATCH (t:Title)-[*0..0]->(l:Link) WHERE l.text CONTAINS \"risks\" RETURN t"

def rangedSyntax : Query where
  page := none
  patterns := [⟨[⟨some "t", ["Title"], []⟩, ⟨some "l", ["Link"], []⟩],
    [⟨none, none, .right, some ⟨2, some 3⟩⟩]⟩]
  predicate := some (.condition ⟨⟨"l", some "text"⟩, .contains, .value (.str "risks")⟩)
  returns := ⟨[⟨"t", none⟩], none, none⟩

def linkPlan : Plan where
  page := none
  textMatch := { query := "risks", ignoreCase := true, kind := .contains, anchorTypes := [.link] }
  targetTypes := [.title]
  topAnchors := 10000
  topNeighbours := 10000
  skipAnchors := 0
  containing := true
  returns := ["t"]

def linkedHeading : String :=
  "<h1><a href=\"/r\">Market risks</a></h1>"

theorem parse_linkQueries :
    Query.parse rangedQuery = .ok rangedSyntax ∧
      Query.parse plainQuery = .ok (rangedSyntax.withHops none) ∧
      Query.parse tightQuery = .ok (rangedSyntax.withHops (some ⟨0, some 0⟩)) := by
  decide +kernel

theorem parse_rangedQuery : Query.parse rangedQuery = .ok rangedSyntax :=
  parse_linkQueries.1

theorem ofText_rangedQuery : Plan.ofText rangedQuery {} = .ok linkPlan :=
  Plan.ofText_eq_ok.mpr ⟨rangedSyntax, parse_rangedQuery, rfl⟩

theorem exists_model_linkedHeading :
    ∃ model anchors, PageModel.ofPage {} linkedHeading = .ok model ∧
      model.graph.anchors linkPlan.textMatch ({} : Config).search.window = .ok anchors ∧
      (model.graph.matchAnchors linkPlan anchors).map
        (fun r => r.neighbours.map (·.ancestorDist)) = [[1]] := by
  obtain ⟨model, hmodel, _, hdist⟩ := PageModel.exists_of_computed {} linkedHeading 0 (fun g =>
      (g.anchors linkPlan.textMatch ({} : Config).search.window).map fun anchors =>
        (g.matchAnchors linkPlan anchors).map fun r => r.neighbours.map (·.ancestorDist))
      (.ok [[1]]) (by decide +kernel) (by decide +kernel)
  obtain ⟨anchors, hanchors, hdist⟩ := map_eq_ok.mp hdist
  exact ⟨model, anchors, hmodel, hanchors, hdist⟩

theorem onPage_hop_range_linkedHeading :
    Query.parse rangedQuery = .ok rangedSyntax ∧ Plan.ofText rangedQuery {} = .ok linkPlan ∧
      Query.parse plainQuery = .ok (rangedSyntax.withHops none) ∧
      onPage {} plainQuery linkedHeading = onPage {} rangedQuery linkedHeading := by
  have hplain := parse_linkQueries.2.1
  obtain ⟨_, _, hfree, _⟩ := onPage_hop_range {} rangedQuery rangedSyntax _ _ _ _ linkPlan
    parse_rangedQuery rfl rfl ofText_rangedQuery
  have hsame := (hfree none (by simp)).2 plainQuery hplain linkedHeading
  exact ⟨parse_rangedQuery, ofText_rangedQuery, hplain, hsame⟩

theorem onPage_outside_hop_range :
    ∃ q q' t a e e' answer,
      Query.parse rangedQuery = .ok q ∧ q.patterns = [⟨[t, a], [e]⟩] ∧ e.hops = some ⟨2, some 3⟩ ∧
      Query.parse tightQuery = .ok q' ∧ q'.patterns = [⟨[t, a], [e']⟩] ∧
      e'.hops = some ⟨0, some 0⟩ ∧
      onPage {} rangedQuery linkedHeading = .ok answer ∧
      onPage {} tightQuery linkedHeading = .ok answer ∧
      ∃ r ∈ answer.results, ∃ m ∈ r.neighbours, m.ancestorDist < 2 ∧ 0 < m.ancestorDist := by
  obtain ⟨model, anchors, hmodel, hanchors, hdist⟩ := exists_model_linkedHeading
  have htight := parse_linkQueries.2.2
  have hplan : Plan.ofText tightQuery {} = .ok linkPlan :=
    Plan.ofText_eq_ok.mpr ⟨_, htight, rfl⟩
  refine ⟨rangedSyntax, _, _, _, _, _, _, parse_rangedQuery, rfl, rfl, htight, rfl, rfl,
    onPage_eq_ok.mpr ⟨linkPlan, model, anchors, ofText_rangedQuery, hmodel, hanchors, rfl⟩,
    onPage_eq_ok.mpr ⟨linkPlan, model, anchors, hplan, hmodel, hanchors, rfl⟩, ?_⟩
  obtain ⟨r, hr, hone⟩ := List.mem_map.mp (hdist ▸ List.mem_singleton_self [1])
  obtain ⟨m, hm, hnear⟩ := List.mem_map.mp (hone ▸ List.mem_singleton_self 1)
  exact ⟨r, hr, m, hm, by omega⟩

end QueryAnswer

end PageGraph
