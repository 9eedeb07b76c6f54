import PageGraph.Proofs.Graph.LowestCommon
import PageGraph.Proofs.Search.Containment
import PageGraph.Proofs.StableSort

/-!
The neighbours of an anchor come from the smallest subtree around it that holds a candidate. Every
candidate in it meets the anchor at its top, and every other one meets it higher up or not at all.
-/

namespace PageGraph

def Neighbour.Precedes (a b : Neighbour) : Prop :=
  b.childCount < a.childCount ∨ a.childCount = b.childCount ∧ a.slot < b.slot

namespace Graph

/-- The first node on the way up from an anchor that has a candidate in its subtree, `r` hops above
the anchor. -/
structure Enclosing (g : Graph) (p : Plan) (anchor : Slot) (r : Nat) (top : Slot) : Prop where
  up : (g.ancestors anchor)[r]? = some top
  inhabited : ∃ s ∈ g.targets p, top ∈ g.ancestors s
  least : ∀ k < r, ∀ t, (g.ancestors anchor)[k]? = some t → ∀ s ∈ g.targets p, t ∉ g.ancestors s

def distOver? (g : Graph) (top : Slot) (r : Nat) (s : Slot) : Option Nat :=
  if s = top then some r else (g.hops? s top).map (max · r)

structure Closest (g : Graph) (p : Plan) (r : Nat) (top s : Slot) (d : Nat) : Prop where
  target : s ∈ g.targets p
  inside : top ∈ g.ancestors s
  dist : g.distOver? top r s = some d
  least : ∀ u ∈ g.targets p, top ∈ g.ancestors u → ∀ e, g.distOver? top r u = some e → d ≤ e

theorem distOver?_eq {g : Graph} {top s : Slot} {down : Nat} (h : g.hops? s top = some down)
    (r : Nat) : g.distOver? top r s = some (max down r) := by
  unfold distOver?
  split
  · next hs =>
    rw [hs, hops?_self, Option.some.injEq] at h
    rw [← h, Nat.zero_max]
  · rw [h, Option.map_some]

theorem pairwise_ranked (g : Graph) (p : Plan) (anchor : Slot) :
    (g.ranked p anchor).Pairwise fun a b =>
      a.before b = true ∧ (b.before a = true → a.slot < b.slot) := by
  have hslots : ((g.candidatesFor p).filterMap (·.near? (g.ancestors anchor))).Pairwise
      fun a b => a.slot < b.slot := by
    have hslot (s : Slot) (m : Neighbour)
        (hm : m ∈ ((g.node? s).map (g.candidateOf p s)).bind (·.near? (g.ancestors anchor))) :
        m.slot = s := by
      obtain ⟨_, hc, hm⟩ := Option.bind_eq_some_iff.mp hm
      obtain ⟨n, _, rfl⟩ := Option.map_eq_some_iff.mp hc
      exact (near?_eq_some hm).1
    rw [candidatesFor, List.filterMap_filterMap]
    refine List.Pairwise.filterMap _ ?_ (g.pairwise_nodes.sublist (List.filter_sublist.map _))
    intro s t hst a ha b hb
    rwa [hslot s a ha, hslot t b hb]
  exact (List.pairwise_mergeSort Neighbour.before_trans Neighbour.before_total _).and
    (pairwise_mergeSort_of_pairwise Neighbour.before_trans Neighbour.before_total hslots)

theorem enclosing_or_none (g : Graph) (p : Plan) (anchor : Slot) :
    (∀ top ∈ g.ancestors anchor, ∀ s ∈ g.targets p, top ∉ g.ancestors s) ∨
      ∃ r top, g.Enclosing p anchor r top := by
  classical
  by_cases hsome : ∃ (r : Nat) (top : Slot), (g.ancestors anchor)[r]? = some top ∧
      ∃ s ∈ g.targets p, top ∈ g.ancestors s
  · obtain ⟨top, hup, hin⟩ := Nat.find_spec hsome
    refine .inr ⟨Nat.find hsome, top, hup, hin, ?_⟩
    intro k hk t ht s hs hts
    exact Nat.find_min hsome hk ⟨t, ht, s, hs, hts⟩
  · refine .inl fun top htop s hs hin => hsome ?_
    obtain ⟨r, hr⟩ := List.getElem?_of_mem htop
    exact ⟨r, top, hr, s, hs, hin⟩

theorem Enclosing.unique {g : Graph} {p : Plan} {anchor top top' : Slot} {r r' : Nat}
    (h : g.Enclosing p anchor r top) (h' : g.Enclosing p anchor r' top') : r = r' ∧ top = top' := by
  have hle {top top' : Slot} {r r' : Nat} (h : g.Enclosing p anchor r top)
      (h' : g.Enclosing p anchor r' top') : r' ≤ r := by
    by_contra hlt
    obtain ⟨s, hs, hin⟩ := h.inhabited
    exact h'.least r (by omega) top h.up s hs hin
  have hr := Nat.le_antisymm (hle h' h) (hle h h')
  subst hr
  exact ⟨rfl, Option.some.inj (h.up.symm.trans h'.up)⟩

theorem mem_of_meetingHops? {g : Graph} {anchor s : Slot} {k : Nat}
    (h : g.meetingHops? anchor s = some k) :
    ∃ t, g.hops? anchor t = some k ∧ t ∈ g.ancestors s := by
  obtain ⟨t, ht, hk⟩ := Option.bind_eq_some_iff.mp h
  rw [lca?_eq_meeting?] at ht
  exact ⟨t, hk, List.mem_of_find?_eq_some ht⟩

theorem nearest_of_none {g : Graph} {p : Plan} {anchor : Slot}
    (h : ∀ top ∈ g.ancestors anchor, ∀ s ∈ g.targets p, top ∉ g.ancestors s) :
    g.nearest p (g.candidatesFor p) anchor = [] := by
  have hempty : g.ranked p anchor = [] := by
    refine List.eq_nil_iff_forall_not_mem.mpr fun m hm => ?_
    obtain ⟨s, n, hs, _, hnear⟩ := mem_ranked.mp hm
    obtain ⟨t, ht, hin⟩ := mem_of_meetingHops? (near?_eq_some hnear).2.1
    exact h t (List.mem_of_getElem? (hops?_eq_some_imp ht)) s hs hin
  rw [ranked] at hempty
  rw [nearest, hempty]
  rfl

theorem Enclosing.le_ancestorDist {g : Graph} {p : Plan} {anchor top : Slot} {r : Nat}
    (h : g.Enclosing p anchor r top) {m : Neighbour} (hm : m ∈ g.ranked p anchor) :
    r ≤ m.ancestorDist := by
  obtain ⟨s, n, hs, _, hnear⟩ := mem_ranked.mp hm
  obtain ⟨t, ht, hin⟩ := mem_of_meetingHops? (near?_eq_some hnear).2.1
  by_contra hlt
  exact h.least _ (by omega) t (hops?_eq_some_imp ht) s hs hin

section Acyclic

variable {g : Graph} (hg : ∀ s, ¬ Relation.TransGen g.Up s s)
variable {p : Plan} {anchor top : Slot} {r : Nat} (h : g.Enclosing p anchor r top)
include hg h

namespace Enclosing

theorem lca? {s : Slot} (hs : s ∈ g.targets p) (hin : top ∈ g.ancestors s) :
    g.lca? anchor s = some top := by
  rw [lca?_eq_some_iff hg]
  refine ⟨List.mem_of_getElem? h.up, hin, fun u ha hu => ?_⟩
  obtain ⟨k, hk⟩ := List.getElem?_of_mem ha
  have hle : r ≤ k := by
    by_contra hlt
    exact h.least k (by omega) u hk s hs hu
  obtain ⟨e, rfl⟩ := Nat.exists_eq_add_of_le hle
  rw [← List.getElem?_drop, drop_ancestors hg h.up] at hk
  exact List.mem_of_getElem? hk

theorem near? {s : Slot} (hs : s ∈ g.targets p) (hin : top ∈ g.ancestors s) (n : Node) :
    ∃ d, g.distOver? top r s = some d ∧ (g.candidateOf p s n).near? (g.ancestors anchor) =
      some ⟨s, n.id, r, d, g.outDegree s, wantedType p n⟩ := by
  have htop := h.lca? hg hs hin
  have hup := (hops?_eq_some_iff hg).mpr h.up
  obtain ⟨down, hdown⟩ := exists_hops? hin
  refine ⟨max down r, distOver?_eq hdown r, ?_⟩
  rw [lca?_eq_meeting?] at htop
  rw [hops?] at hup hdown
  simp [Candidate.near?, Candidate.distances?, candidateOf, htop, hup, hdown]

theorem mem_ranked_iff {m : Neighbour} :
    m ∈ g.ranked p anchor ∧ m.ancestorDist = r ↔
      ∃ s n d, s ∈ g.targets p ∧ top ∈ g.ancestors s ∧ g.node? s = some n ∧
        g.distOver? top r s = some d ∧ m = ⟨s, n.id, r, d, g.outDegree s, wantedType p n⟩ := by
  constructor
  · rintro ⟨hm, hdist⟩
    obtain ⟨s, n, hs, hn, hnear⟩ := mem_ranked.mp hm
    obtain ⟨t, ht, hin⟩ := mem_of_meetingHops? (near?_eq_some hnear).2.1
    rw [hdist, hops?_eq_some_iff hg, h.up, Option.some.injEq] at ht
    obtain ⟨d, hd, hsame⟩ := h.near? hg hs (ht ▸ hin) n
    exact ⟨s, n, d, hs, ht ▸ hin, hn, hd, Option.some.inj (hnear.symm.trans hsame)⟩
  · rintro ⟨s, n, d, hs, hin, hn, hd, rfl⟩
    obtain ⟨e, he, hnear⟩ := h.near? hg hs hin n
    cases hd.symm.trans he
    exact ⟨mem_ranked.mpr ⟨s, n, hs, hn, hnear⟩, rfl⟩

theorem nearest_eq : ∃ best ∈ g.ranked p anchor, best.ancestorDist = r ∧
    (∀ k ∈ g.ranked p anchor, k.ancestorDist = r → best.dist ≤ k.dist) ∧
      g.nearest p (g.candidatesFor p) anchor = ((g.ranked p anchor).filter fun k =>
        k.tiesWith best && (!p.containing || g.isAncestor k.slot anchor)).take
          p.topNeighbours.toNat := by
  obtain ⟨s, hs, hin⟩ := h.inhabited
  obtain ⟨n, hn, _⟩ := (mem_slotsWhere g _ s).mp hs
  obtain ⟨d, hd, _⟩ := h.near? hg hs hin n
  obtain ⟨hm, _⟩ := (h.mem_ranked_iff hg).mpr ⟨s, n, d, hs, hin, hn, hd, rfl⟩
  obtain ⟨best, hbest, hmin, heq⟩ := Graph.nearest_eq hm
  have hdist : best.ancestorDist = r := by
    have hle := (Neighbour.before_iff _ _).mp (hmin _ hm)
    have := h.le_ancestorDist hbest
    simp only at hle
    omega
  refine ⟨best, hbest, hdist, fun k hk hkr => ?_, heq⟩
  have := (Neighbour.before_iff _ _).mp (hmin k hk)
  omega

theorem nearest_of_not_containing (hcontaining : p.containing = false) :
    ∃ all : List Neighbour,
      g.nearest p (g.candidatesFor p) anchor = all.take p.topNeighbours.toNat ∧
      all.Pairwise Neighbour.Precedes ∧
      ∀ m, m ∈ all ↔ ∃ s n d, g.Closest p r top s d ∧ g.node? s = some n ∧
        m = ⟨s, n.id, r, d, g.outDegree s, wantedType p n⟩ := by
  obtain ⟨best, hbest, hdist, hmin, heq⟩ := h.nearest_eq hg
  simp only [hcontaining, Bool.not_false, Bool.true_or, Bool.and_true] at heq
  refine ⟨(g.ranked p anchor).filter (·.tiesWith best), heq, ?_, ?_⟩
  · rw [List.pairwise_filter]
    refine (g.pairwise_ranked p anchor).imp fun {a b} ⟨hab, hba⟩ ha hb => ?_
    rw [Neighbour.before_iff] at hab
    rw [Neighbour.tiesWith_iff] at ha hb
    obtain hmore | hsame : b.childCount < a.childCount ∨ a.childCount = b.childCount := by omega
    · exact .inl hmore
    · exact .inr ⟨hsame, hba ((Neighbour.before_iff b a).mpr (by omega))⟩
  · intro m
    rw [List.mem_filter, Neighbour.tiesWith_iff, hdist, ← and_assoc, h.mem_ranked_iff hg]
    constructor
    · rintro ⟨⟨s, n, d, hs, hin, hn, hd, rfl⟩, htie⟩
      refine ⟨s, n, d, ⟨hs, hin, hd, fun u hu hu' e he => ?_⟩, hn, rfl⟩
      obtain ⟨k, hk, _⟩ := (mem_slotsWhere g _ u).mp hu
      obtain ⟨hmem, hr⟩ := (h.mem_ranked_iff hg).mpr ⟨u, k, e, hu, hu', hk, he, rfl⟩
      have hle := hmin _ hmem hr
      simp only at htie hle
      omega
    · rintro ⟨s, n, d, hclosest, hn, rfl⟩
      have hs := (h.mem_ranked_iff hg).mpr
        ⟨s, n, d, hclosest.target, hclosest.inside, hn, hclosest.dist, rfl⟩
      obtain ⟨t, o, e, ht, hin, _, he, rfl⟩ := (h.mem_ranked_iff hg).mp ⟨hbest, hdist⟩
      refine ⟨⟨s, n, d, hclosest.target, hclosest.inside, hn, hclosest.dist, rfl⟩, ?_⟩
      exact Nat.le_antisymm (hclosest.least t ht hin e he) (hmin _ hs.1 hs.2)

theorem slot_eq_top {m : Neighbour} (hm : m ∈ g.ranked p anchor) (hdist : m.ancestorDist = r)
    (habove : g.isAncestor m.slot anchor = true) : m.slot = top := by
  have hhops := hops?_of_mem_ranked hg hm habove
  rw [hdist] at hhops
  exact hops?_inj hhops ((hops?_eq_some_iff hg).mpr h.up)

theorem nearest_of_top (hcontaining : p.containing = true) {n : Node} (htop : top ∈ g.targets p)
    (hn : g.node? top = some n) : g.nearest p (g.candidatesFor p) anchor =
      [⟨top, n.id, r, r, g.outDegree top, wantedType p n⟩].take p.topNeighbours.toNat := by
  obtain ⟨best, hbest, hdist, hmin, heq⟩ := h.nearest_eq hg
  have hself : g.distOver? top r top = some r := if_pos rfl
  obtain ⟨hmem, hr⟩ := (h.mem_ranked_iff hg).mpr
    ⟨top, n, r, htop, g.self_mem_ancestors top, hn, hself, rfl⟩
  have hbestdist : best.dist = r := by
    have hle := hmin _ hmem hr
    obtain ⟨_, _, _, _, hnear⟩ := mem_ranked.mp hbest
    have := (near?_eq_some hnear).2.2
    simp only at hle
    omega
  have habove : g.isAncestor top anchor = true :=
    (isAncestor_iff hg top anchor).mpr (List.mem_of_getElem? h.up)
  rw [heq, filter_eq_singleton (g.nodup_ranked p anchor) hmem]
  intro k hk
  rw [Bool.and_eq_true, Neighbour.tiesWith_iff, hdist, hbestdist, hcontaining]
  constructor
  · rintro ⟨⟨hkr, _⟩, hup⟩
    exact eq_of_mem_ranked hk hmem (h.slot_eq_top hg hk hkr hup)
  · rintro rfl
    exact ⟨⟨rfl, rfl⟩, habove⟩

theorem nearest_of_not_top (hcontaining : p.containing = true) (htop : top ∉ g.targets p) :
    g.nearest p (g.candidatesFor p) anchor = [] := by
  obtain ⟨best, _, hdist, _, heq⟩ := h.nearest_eq hg
  rw [heq, List.filter_eq_nil_iff.mpr, List.take_nil]
  intro k hk hkeep
  rw [Bool.and_eq_true, Neighbour.tiesWith_iff, hcontaining] at hkeep
  obtain ⟨⟨hkr, _⟩, hup⟩ := hkeep
  obtain ⟨s, _, hs, _, hnear⟩ := mem_ranked.mp hk
  rw [← h.slot_eq_top hg hk (hkr.trans hdist) hup, (near?_eq_some hnear).1] at htop
  exact htop hs

end Enclosing

end Acyclic

theorem nearest_enclosing (g : Graph) (hg : ∀ s, ¬ Relation.TransGen g.Up s s) (p : Plan)
    (anchor : Slot) :
    (∀ top ∈ g.ancestors anchor, ∀ s ∈ g.targets p, top ∉ g.ancestors s) ∧
        g.nearest p (g.candidatesFor p) anchor = [] ∨
      ∃ r top, g.Enclosing p anchor r top ∧
        (p.containing = false → ∃ all : List Neighbour,
          g.nearest p (g.candidatesFor p) anchor = all.take p.topNeighbours.toNat ∧
          all.Pairwise Neighbour.Precedes ∧
          ∀ m, m ∈ all ↔ ∃ s n d, g.Closest p r top s d ∧ g.node? s = some n ∧
            m = ⟨s, n.id, r, d, g.outDegree s, wantedType p n⟩) ∧
        (p.containing = true →
          (∀ n, top ∈ g.targets p → g.node? top = some n →
            g.nearest p (g.candidatesFor p) anchor =
              [⟨top, n.id, r, r, g.outDegree top, wantedType p n⟩].take p.topNeighbours.toNat) ∧
          (top ∉ g.targets p → g.nearest p (g.candidatesFor p) anchor = [])) := by
  rcases g.enclosing_or_none p anchor with hnone | ⟨r, top, h⟩
  · exact .inl ⟨hnone, nearest_of_none hnone⟩
  · refine .inr ⟨r, top, h, h.nearest_of_not_containing hg, fun hcontaining => ⟨?_, ?_⟩⟩
    · exact fun n htop hn => h.nearest_of_top hg hcontaining htop hn
    · exact h.nearest_of_not_top hg hcontaining

def lists : Graph where
  slots := #[
    some ⟨"body_1", "body", "body", 0, [], none, true, .empty, none⟩,
    some ⟨"ol_1", "ol", "ol", 1, [], none, false, .ofList [.grid], some 0⟩,
    some ⟨"li_1", "li", "li", 2, [], some { text := "One" }, false, .empty, some 1⟩,
    some ⟨"ul_1", "ul", "ul", 3, [], none, false, .ofList [.grid], some 0⟩,
    some ⟨"li_2", "li", "li", 4, [], some { text := "Two" }, false, .empty, some 3⟩,
    some ⟨"li_3", "li", "li", 5, [], some { text := "Three" }, false, .empty, some 3⟩,
    some ⟨"dl_1", "dl", "dl", 6, [], none, false, .ofList [.grid], some 0⟩,
    some ⟨"dt_1", "dt", "dt", 7, [], some { text := "Four" }, false, .empty, some 6⟩,
    some ⟨"p_1", "p", "p", 8, [], some { text := "Market risks" }, false, .empty, some 0⟩]
  free := []
  edges := [(0, 1), (1, 2), (0, 3), (3, 4), (3, 5), (0, 6), (6, 7), (0, 8)]

def gridNear : Plan :=
  { headingAbove with targetTypes := [.grid], containing := false }

theorem nearest_enclosing_lists :
    (∀ s, ¬ Relation.TransGen lists.Up s s) ∧ lists.Enclosing gridNear 8 1 0 ∧
      ∃ all : List Neighbour,
        lists.nearest gridNear (lists.candidatesFor gridNear) 8 = all.take 10 ∧
        all.Pairwise Neighbour.Precedes ∧
        ∀ m, m ∈ all ↔ ∃ s n d, lists.Closest gridNear 1 0 s d ∧ lists.node? s = some n ∧
          m = ⟨s, n.id, 1, d, lists.outDegree s, wantedType gridNear n⟩ := by
  have hg : ∀ s, ¬ Relation.TransGen lists.Up s s := acyclic_of_descending (by decide)
  have hbody : lists.Enclosing gridNear 8 1 0 := by
    refine ⟨by decide, ⟨1, by decide, by decide⟩, ?_⟩
    have hall : ∀ k < 1, ∀ t ∈ (lists.ancestors 8)[k]?, ∀ s ∈ lists.targets gridNear,
        t ∉ lists.ancestors s := by decide
    exact hall
  refine ⟨hg, hbody, ?_⟩
  obtain ⟨hnone, _⟩ | ⟨r, top, h, hnear, _⟩ := nearest_enclosing lists hg gridNear 8
  · exact absurd (by decide) (hnone 0 (by decide) 1 (by decide))
  · obtain ⟨rfl, rfl⟩ := h.unique hbody
    exact hnear rfl

example : (lists.nearest gridNear (lists.candidatesFor gridNear) 8).map (·.slot) = [3, 1, 6] := by
  cbv

end Graph

end PageGraph
