import PageGraph.Proofs.Query.Compilation
import PageGraph.Proofs.Search.Anchors
import PageGraph.Proofs.Search.Containment

namespace PageGraph

namespace Graph

theorem exists_top_of_near? {g : Graph} {p : Plan} {anchor s : Slot} {n : Node} {m : Neighbour}
    (h : (g.candidateOf p s n).near? (g.ancestors anchor) = some m) :
    ∃ top down, g.hops? anchor top = some m.ancestorDist ∧ g.hops? s top = some down ∧
      m.dist = max down m.ancestorDist := by
  simp only [Candidate.near?, Candidate.distances?, candidateOf, Option.map_eq_some_iff,
    Prod.exists, Option.bind_eq_bind, Option.bind_eq_some_iff, Option.pure_def, Option.some.injEq,
    Prod.mk.injEq] at h
  obtain ⟨_, _, ⟨top, _, up, hup, down, hdown, rfl, rfl⟩, rfl⟩ := h
  exact ⟨top, down, hup, hdown, rfl⟩

theorem slot_eq_of_dist_eq_zero {g : Graph} {p : Plan} {anchor : Slot} {m : Neighbour}
    (hm : m ∈ g.ranked p anchor) (hzero : m.dist = 0) : m.slot = anchor := by
  obtain ⟨s, n, _, _, hnear⟩ := mem_ranked.mp hm
  obtain ⟨hslot, _, _⟩ := near?_eq_some hnear
  obtain ⟨top, down, hup, hdown, hdist⟩ := exists_top_of_near? hnear
  obtain ⟨hd, hu⟩ : down = 0 ∧ m.ancestorDist = 0 := by omega
  rw [hu] at hup
  rw [hd] at hdown
  have hanchor : top = anchor := hops?_inj hup (g.hops?_self anchor)
  have hs : top = s := hops?_inj hdown (g.hops?_self s)
  rw [hslot, ← hs, hanchor]

section Unrestricted

variable {g : Graph} {p : Plan} (hp : p.targetTypes = [])
include hp

theorem targets_of_nil (g : Graph) : g.targets p = g.nodes.map (·.1) := by
  simp [targets, slotsWhere, hp]

theorem self_mem_ranked {anchor : Slot} {n : Node} (hn : g.node? anchor = some n) :
    (⟨anchor, n.id, 0, 0, g.outDegree anchor, n.labels.first?⟩ : Neighbour) ∈
      g.ranked p anchor := by
  have htype : wantedType p n = n.labels.first? := by simp [wantedType, hp]
  have htarget : anchor ∈ g.targets p := by
    rw [targets_of_nil hp]
    exact List.mem_map_of_mem ((mem_nodes g anchor n).mpr hn)
  have hnear := near?_of_mem_ancestors (p := p) n (g.hops?_self anchor)
  rw [htype] at hnear
  exact mem_ranked.mpr ⟨anchor, n, htarget, hn, hnear⟩

theorem nearest_self (htop : 0 < p.topNeighbours.toNat) {anchor : Slot} {n : Node}
    (hn : g.node? anchor = some n) :
    g.nearest p (g.candidatesFor p) anchor =
      [⟨anchor, n.id, 0, 0, g.outDegree anchor, n.labels.first?⟩] := by
  have hself := self_mem_ranked hp hn
  obtain ⟨best, hbest, hmin, heq⟩ := nearest_eq hself
  have hzero : best.ancestorDist = 0 ∧ best.dist = 0 := by
    have hle := (Neighbour.before_iff _ _).mp (hmin _ hself)
    simp only at hle
    omega
  rw [heq, filter_eq_singleton (g.nodup_ranked p anchor) hself, List.take_of_length_le]
  · exact htop
  · intro k hk
    rw [Bool.and_eq_true, Neighbour.tiesWith_iff, hzero.1, hzero.2]
    constructor
    · rintro ⟨⟨_, hdist⟩, _⟩
      exact eq_of_mem_ranked hk hself (slot_eq_of_dist_eq_zero hk hdist)
    · rintro rfl
      simp [isAncestor_self]

end Unrestricted

structure Alone (g : Graph) (p : Plan) : Prop where
  nearest : ∀ anchor n, g.node? anchor = some n → g.nearest p (g.candidatesFor p) anchor =
    [⟨anchor, n.id, 0, 0, g.outDegree anchor, n.labels.first?⟩]
  answers : ∀ window as, g.anchors p.textMatch window = .ok as → ∀ r ∈ g.matchAnchors p as,
    ∃ s n, g.node? s = some n ∧ r.anchor = n.id ∧
      r.neighbours = [⟨s, n.id, 0, 0, g.outDegree s, n.labels.first?⟩]

theorem alone_of_nil (g : Graph) {p : Plan} (hp : p.targetTypes = [])
    (htop : 0 < p.topNeighbours.toNat) : g.Alone p := by
  refine ⟨fun _ _ => nearest_self hp htop, ?_⟩
  intro window as has r hr
  obtain ⟨a, ha, rfl⟩ := List.mem_map.mp hr
  obtain ⟨n, hn, hid⟩ := node?_of_mem_anchors has (List.mem_of_mem_drop (List.mem_of_mem_take ha))
  exact ⟨a.slot, n, hn, hid, nearest_self hp htop hn⟩

end Graph

namespace Query

theorem plan_of_node {q : Query} {config : SearchConfig} {plan : Plan} {n : NodePattern}
    (hpattern : q.patterns = [⟨[n], []⟩]) (hplan : q.plan config = .ok plan) :
    plan.targetTypes = [] ∧ plan.topNeighbours = config.topNeighbours := by
  obtain ⟨pattern, honly, h⟩ := bind_eq_ok.mp hplan
  obtain ⟨⟨declared, anchor, anchorTypes, targetTypes, containing⟩, hroles, h⟩ := bind_eq_ok.mp h
  obtain ⟨c, _, h⟩ := bind_eq_ok.mp h
  obtain ⟨t, _, h⟩ := bind_eq_ok.mp h
  obtain ⟨⟨⟩, _, h⟩ := bind_eq_ok.mp h
  cases h
  have hsingle := (onlyPattern_eq_ok _ _).mp honly
  rw [hpattern] at hsingle
  cases hsingle
  obtain ⟨hasks, _⟩ := (Pattern.roles_eq_ok _ _).mp hroles
  cases hasks
  exact ⟨rfl, rfl⟩

end Query

namespace Graph

theorem alone_unrestricted (g : Graph) :
    (∀ p, p.targetTypes = [] → 0 < p.topNeighbours.toNat → g.Alone p) ∧
      ∀ (q : Query) (n : Query.NodePattern) (config : SearchConfig) (p : Plan),
        q.patterns = [⟨[n], []⟩] → 0 < config.topNeighbours.toNat → q.plan config = .ok p →
          g.Alone p := by
  refine ⟨fun _ => g.alone_of_nil, ?_⟩
  intro q n config p hpattern htop hplan
  obtain ⟨htypes, hsame⟩ := Query.plan_of_node hpattern hplan
  exact g.alone_of_nil htypes (hsame ▸ htop)

def circle : Graph where
  slots := #[
    some ⟨"h1_1", "h1", "h1", 0, [], some { text := "Market risks" }, true, .ofList [.title], some 1⟩,
    some ⟨"h2_1", "h2", "h2", 1, [], some { text := "Risks" }, false, .ofList [.title], some 0⟩]
  free := []
  edges := [(0, 1), (1, 0)]

def titleQuery : Query where
  page := none
  patterns := [⟨[⟨some "t", ["Title"], []⟩], []⟩]
  predicate := some (.condition ⟨⟨"t", none⟩, .contains, .value (.str "risks")⟩)
  returns := ⟨[⟨"t", none⟩], none, none⟩

def titlePlan : Plan where
  page := none
  textMatch := { query := "risks", ignoreCase := true, kind := .contains }
  targetTypes := []
  topAnchors := 10000
  topNeighbours := 10000
  skipAnchors := 0
  containing := false
  returns := ["t"]

theorem alone_unrestricted_circle :
    titleQuery.plan {} = .ok titlePlan ∧ circle.hops? 0 1 = some 1 ∧ circle.hops? 1 0 = some 1 ∧
      circle.nearest titlePlan (circle.candidatesFor titlePlan) 1 =
        [⟨1, "h2_1", 0, 0, 1, some .title⟩] := by
  have hplan : titleQuery.plan {} = .ok titlePlan := rfl
  have halone := (alone_unrestricted circle).2 titleQuery _ {} titlePlan rfl (by decide) hplan
  exact ⟨hplan, by decide, by decide, halone.nearest 1 _ rfl⟩

end Graph

end PageGraph
