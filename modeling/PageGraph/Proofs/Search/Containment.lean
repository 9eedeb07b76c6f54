import Mathlib.Data.Nat.Find
import PageGraph.Proofs.Graph.Ancestry
import PageGraph.Search.Neighbour

/-!
The neighbours of an anchor that contain it. The best distances are found among all candidates, and
only then are those left out that do not contain the anchor: the nearest containing candidate
remains, alone, unless the way up of another candidate comes in below it.
-/

namespace PageGraph

namespace Neighbour

theorem before_iff (a b : Neighbour) :
    a.before b = true ↔ a.ancestorDist < b.ancestorDist ∨ a.ancestorDist = b.ancestorDist ∧
      (a.dist < b.dist ∨ a.dist = b.dist ∧ b.childCount ≤ a.childCount) := by
  simp [before]

theorem before_trans (a b c : Neighbour) (hab : a.before b = true) (hbc : b.before c = true) :
    a.before c = true := by
  rw [before_iff] at *
  omega

theorem before_total (a b : Neighbour) : (a.before b || b.before a) = true := by
  rw [Bool.or_eq_true, before_iff, before_iff]
  omega

theorem tiesWith_iff (a b : Neighbour) :
    a.tiesWith b = true ↔ a.ancestorDist = b.ancestorDist ∧ a.dist = b.dist := by
  simp [tiesWith]

end Neighbour

theorem filter_eq_singleton {α : Type} {l : List α} {a : α} {keep : α → Bool} (hl : l.Nodup)
    (ha : a ∈ l) (h : ∀ b ∈ l, keep b = true ↔ b = a) : l.filter keep = [a] := by
  classical
  calc l.filter keep = l.filter (· == a) := by
        refine List.filter_congr fun b hb => ?_
        rw [Bool.eq_iff_iff, h b hb, beq_iff_eq]
    _ = List.replicate (l.count a) a := List.filter_beq a
    _ = [a] := by rw [List.count_eq_one_of_mem hl ha, List.replicate_one]

namespace Graph

def meetingHops? (g : Graph) (anchor s : Slot) : Option Nat :=
  (g.lca? anchor s).bind (g.hops? anchor)

theorem near?_eq_some {g : Graph} {p : Plan} {anchor s : Slot} {n : Node} {m : Neighbour}
    (h : (g.candidateOf p s n).near? (g.ancestors anchor) = some m) :
    m.slot = s ∧ g.meetingHops? anchor s = some m.ancestorDist ∧ m.ancestorDist ≤ m.dist := by
  simp only [Candidate.near?, Candidate.distances?, candidateOf, Option.map_eq_some_iff,
    Prod.exists, Option.bind_eq_bind, Option.bind_eq_some_iff, Option.pure_def, Option.some.injEq,
    Prod.mk.injEq] at h
  obtain ⟨_, _, ⟨top, htop, up, hup, down, _, rfl, rfl⟩, rfl⟩ := h
  refine ⟨rfl, ?_, Nat.le_max_right down up⟩
  rw [meetingHops?, lca?_eq_meeting?, htop]
  exact hup

theorem exists_near? {g : Graph} {p : Plan} {anchor s : Slot} {d : Nat} (n : Node)
    (h : g.meetingHops? anchor s = some d) :
    ∃ m, (g.candidateOf p s n).near? (g.ancestors anchor) = some m ∧ m.ancestorDist = d := by
  obtain ⟨top, htop, hup⟩ := Option.bind_eq_some_iff.mp h
  rw [lca?_eq_meeting?] at htop
  obtain ⟨down, hdown⟩ := exists_hops? (List.mem_of_find?_eq_some htop)
  rw [hops?] at hup hdown
  refine ⟨⟨s, n.id, d, max down d, g.outDegree s, wantedType p n⟩, ?_, rfl⟩
  simp [Candidate.near?, Candidate.distances?, candidateOf, htop, hup, hdown]

theorem near?_of_mem_ancestors {g : Graph} {p : Plan} {anchor s : Slot} {d : Nat} (n : Node)
    (h : g.hops? anchor s = some d) :
    (g.candidateOf p s n).near? (g.ancestors anchor) =
      some ⟨s, n.id, d, d, g.outDegree s, wantedType p n⟩ := by
  have hmem : s ∈ g.ancestors anchor := List.mem_of_getElem? (hops?_eq_some_imp h)
  have htop := lca?_of_mem_ancestors hmem
  have hself : (g.ancestors s).idxOf? s = some 0 := by
    rw [ancestors, chain, List.idxOf?_cons, if_pos (beq_self_eq_true s)]
  rw [lca?_eq_meeting?] at htop
  rw [hops?] at h
  simp [Candidate.near?, Candidate.distances?, candidateOf, htop, h, hself]

def ranked (g : Graph) (p : Plan) (anchor : Slot) : List Neighbour :=
  ((g.candidatesFor p).filterMap (·.near? (g.ancestors anchor))).mergeSort Neighbour.before

theorem mem_ranked {g : Graph} {p : Plan} {anchor : Slot} {m : Neighbour} :
    m ∈ g.ranked p anchor ↔ ∃ s n, s ∈ g.targets p ∧ g.node? s = some n ∧
      (g.candidateOf p s n).near? (g.ancestors anchor) = some m := by
  simp only [ranked, List.mem_mergeSort, candidatesFor, List.mem_filterMap, Option.map_eq_some_iff]
  constructor
  · rintro ⟨_, ⟨s, hs, n, hn, rfl⟩, hm⟩
    exact ⟨s, n, hs, hn, hm⟩
  · rintro ⟨s, n, hs, hn, hm⟩
    exact ⟨_, ⟨s, hs, n, hn, rfl⟩, hm⟩

theorem nodup_ranked (g : Graph) (p : Plan) (anchor : Slot) : (g.ranked p anchor).Nodup := by
  refine (List.mergeSort_perm _ _).nodup_iff.mpr ?_
  rw [candidatesFor, List.filterMap_filterMap]
  refine List.Nodup.filterMap ?_ (g.nodup_slotsWhere _)
  have hslot (s : Slot) (m : Neighbour)
      (hm : m ∈ ((g.node? s).map (g.candidateOf p s)).bind (·.near? (g.ancestors anchor))) :
      m.slot = s := by
    obtain ⟨_, hc, hm⟩ := Option.bind_eq_some_iff.mp hm
    obtain ⟨n, _, rfl⟩ := Option.map_eq_some_iff.mp hc
    exact (near?_eq_some hm).1
  intro s t m hs ht
  rw [← hslot s m hs, hslot t m ht]

theorem eq_of_mem_ranked {g : Graph} {p : Plan} {anchor : Slot} {m k : Neighbour}
    (hm : m ∈ g.ranked p anchor) (hk : k ∈ g.ranked p anchor) (h : m.slot = k.slot) : m = k := by
  obtain ⟨s, n, _, hn, hs⟩ := mem_ranked.mp hm
  obtain ⟨t, o, _, ho, ht⟩ := mem_ranked.mp hk
  have hst : s = t := by
    rw [← (near?_eq_some hs).1, ← (near?_eq_some ht).1, h]
  subst hst
  rw [hn] at ho
  cases ho
  exact Option.some.inj (hs.symm.trans ht)

theorem nearest_eq {g : Graph} {p : Plan} {anchor : Slot} {m : Neighbour}
    (hm : m ∈ g.ranked p anchor) : ∃ best ∈ g.ranked p anchor,
      (∀ k ∈ g.ranked p anchor, best.before k = true) ∧
      g.nearest p (g.candidatesFor p) anchor = ((g.ranked p anchor).filter fun k =>
        k.tiesWith best && (!p.containing || g.isAncestor k.slot anchor)).take
          p.topNeighbours.toNat := by
  have hsorted : (g.ranked p anchor).Pairwise fun a b => a.before b = true :=
    List.pairwise_mergeSort Neighbour.before_trans Neighbour.before_total _
  cases hranked : g.ranked p anchor with
  | nil => simp [hranked] at hm
  | cons best others =>
    rw [hranked, List.pairwise_cons] at hsorted
    refine ⟨best, List.mem_cons_self, ?_, ?_⟩
    · refine List.forall_mem_cons.mpr ⟨?_, hsorted.1⟩
      simpa using Neighbour.before_total best best
    · unfold nearest
      rw [← hranked]
      simp only [ranked] at hranked ⊢
      rw [hranked]
      rfl

structure NearestAbove (g : Graph) (p : Plan) (anchor t : Slot) (d : Nat) : Prop where
  target : t ∈ g.targets p
  above : g.isAncestor t anchor = true
  hops : g.hops? anchor t = some d
  nearest : ∀ u ∈ g.targets p, g.isAncestor u anchor = true →
    ∀ e, g.hops? anchor u = some e → d ≤ e

section Acyclic

variable {g : Graph} (hg : ∀ s, ¬ Relation.TransGen g.Up s s)
include hg

theorem exists_nearestAbove {p : Plan} {anchor : Slot}
    (h : ∃ t ∈ g.targets p, g.isAncestor t anchor = true) :
    ∃ t d, g.NearestAbove p anchor t d := by
  classical
  have hsome : ∃ d, ∃ t ∈ g.targets p, g.isAncestor t anchor = true ∧ g.hops? anchor t = some d := by
    obtain ⟨t, ht, habove⟩ := h
    obtain ⟨d, hd⟩ := exists_hops? ((isAncestor_iff hg t anchor).mp habove)
    exact ⟨d, t, ht, habove, hd⟩
  obtain ⟨t, ht, habove, hd⟩ := Nat.find_spec hsome
  refine ⟨t, Nat.find hsome, ht, habove, hd, ?_⟩
  intro u hu hup e he
  exact Nat.find_min' hsome ⟨u, hu, hup, he⟩

theorem hops?_of_mem_ranked {p : Plan} {anchor : Slot} {m : Neighbour}
    (hm : m ∈ g.ranked p anchor) (habove : g.isAncestor m.slot anchor = true) :
    g.hops? anchor m.slot = some m.ancestorDist := by
  obtain ⟨s, n, _, _, hnear⟩ := mem_ranked.mp hm
  obtain ⟨rfl, hmeet, _⟩ := near?_eq_some hnear
  have hmem := (isAncestor_iff hg m.slot anchor).mp habove
  rwa [meetingHops?, lca?_of_mem_ancestors hmem, Option.bind_some] at hmeet

end Acyclic

namespace NearestAbove

variable {g : Graph} {p : Plan} {anchor t : Slot} {d : Nat}

theorem mem_ranked {n : Node} (h : g.NearestAbove p anchor t d) (hn : g.node? t = some n) :
    (⟨t, n.id, d, d, g.outDegree t, wantedType p n⟩ : Neighbour) ∈ g.ranked p anchor :=
  Graph.mem_ranked.mpr ⟨t, n, h.target, hn, near?_of_mem_ancestors n h.hops⟩

variable (hg : ∀ s, ¬ Relation.TransGen g.Up s s) (hcontaining : p.containing = true)
include hg hcontaining

theorem nearest_of_clear {n : Node} (h : g.NearestAbove p anchor t d) (hn : g.node? t = some n)
    (htop : 0 < p.topNeighbours.toNat)
    (hclear : ∀ u ∈ g.targets p, ∀ e, g.meetingHops? anchor u = some e → d ≤ e) :
    g.nearest p (g.candidatesFor p) anchor =
      [⟨t, n.id, d, d, g.outDegree t, wantedType p n⟩] := by
  have hmem := h.mem_ranked hn
  obtain ⟨best, hbest, hmin, heq⟩ := nearest_eq hmem
  have hfar : ∀ k ∈ g.ranked p anchor, d ≤ k.ancestorDist ∧ k.ancestorDist ≤ k.dist := by
    intro k hk
    obtain ⟨u, _, hu, _, hnear⟩ := Graph.mem_ranked.mp hk
    obtain ⟨_, hmeet, hdist⟩ := near?_eq_some hnear
    exact ⟨hclear u hu _ hmeet, hdist⟩
  have hbestdist : best.ancestorDist = d ∧ best.dist = d := by
    have hle := (Neighbour.before_iff _ _).mp (hmin _ hmem)
    have := hfar best hbest
    simp only at hle
    omega
  rw [heq, filter_eq_singleton (g.nodup_ranked p anchor) hmem, List.take_of_length_le]
  · exact htop
  · intro k hk
    rw [Bool.and_eq_true, Neighbour.tiesWith_iff, hbestdist.1, hbestdist.2, hcontaining]
    constructor
    · rintro ⟨⟨hkd, _⟩, habove⟩
      have hhops := hops?_of_mem_ranked hg hk habove
      rw [hkd] at hhops
      exact eq_of_mem_ranked hk hmem (hops?_inj hhops h.hops)
    · rintro rfl
      exact ⟨⟨rfl, rfl⟩, h.above⟩

theorem nearest_of_hidden (h : g.NearestAbove p anchor t d) {u : Slot} {e : Nat}
    (hu : u ∈ g.targets p) (hmeet : g.meetingHops? anchor u = some e) (hlt : e < d) :
    g.nearest p (g.candidatesFor p) anchor = [] := by
  obtain ⟨n, hn, _⟩ := (mem_slotsWhere g _ u).mp hu
  obtain ⟨m, hm, rfl⟩ := exists_near? n hmeet
  have hmem := Graph.mem_ranked.mpr ⟨u, n, hu, hn, hm⟩
  obtain ⟨best, _, hmin, heq⟩ := nearest_eq hmem
  have hbest : best.ancestorDist < d := by
    have := (Neighbour.before_iff _ _).mp (hmin m hmem)
    omega
  rw [heq, List.filter_eq_nil_iff.mpr, List.take_nil]
  intro k hk hkeep
  rw [Bool.and_eq_true, Neighbour.tiesWith_iff, hcontaining] at hkeep
  obtain ⟨⟨hkd, _⟩, habove⟩ := hkeep
  obtain ⟨s, _, hs, _, hnear⟩ := Graph.mem_ranked.mp hk
  have hslot := (near?_eq_some hnear).1
  have := h.nearest s hs (hslot ▸ habove) _ (hslot ▸ hops?_of_mem_ranked hg hk habove)
  omega

end NearestAbove

theorem nearest_containing (g : Graph) (hg : ∀ s, ¬ Relation.TransGen g.Up s s) (p : Plan)
    (hcontaining : p.containing = true) (htop : 0 < p.topNeighbours.toNat) (anchor : Slot)
    (habove : ∃ t ∈ g.targets p, g.isAncestor t anchor = true) :
    ∃ t d n, g.NearestAbove p anchor t d ∧ g.node? t = some n ∧
      ((∀ u ∈ g.targets p, ∀ e, g.meetingHops? anchor u = some e → d ≤ e) →
        g.nearest p (g.candidatesFor p) anchor =
          [⟨t, n.id, d, d, g.outDegree t, wantedType p n⟩]) ∧
      ((∃ u ∈ g.targets p, ∃ e < d, g.meetingHops? anchor u = some e) →
        g.nearest p (g.candidatesFor p) anchor = []) := by
  obtain ⟨t, d, h⟩ := exists_nearestAbove hg habove
  obtain ⟨n, hn, _⟩ := (mem_slotsWhere g _ t).mp h.target
  refine ⟨t, d, n, h, hn, h.nearest_of_clear hg hcontaining hn htop, ?_⟩
  rintro ⟨u, hu, e, hlt, hmeet⟩
  exact h.nearest_of_hidden hg hcontaining hu hmeet hlt

def headings (s : Slot) : Graph where
  slots := #[
    some ⟨"body_1", "body", "body", 0, [], none, true, .empty, none⟩,
    some ⟨"h1_1", "h1", "h1", 1, [], none, false, .ofList [.title], some 0⟩,
    some ⟨"div_1", "div", "div", 2, [], none, false, .empty, some 1⟩,
    some ⟨"a_1", "a", "a", 3, [], some { text := "Market risks" }, false, .ofList [.link], some 2⟩,
    some ⟨"h2_1", "h2", "h2", 4, [], none, false, .ofList [.title], some s⟩]
  free := []
  edges := [(0, 1), (1, 2), (2, 3), (s, 4)]

def headingAbove : Plan where
  page := none
  textMatch := { query := "risks", ignoreCase := true, kind := .contains, anchorTypes := [.link] }
  targetTypes := [.title]
  topAnchors := 10
  topNeighbours := 10
  skipAnchors := 0
  containing := true
  returns := ["t"]

theorem acyclic_headings (s : Slot) (hs : s < 4) (t : Slot) :
    ¬ Relation.TransGen (headings s).Up t t := by
  have hall : ∀ s < 4, ∀ a < 5, ∀ b ∈ (headings s).parent? a, b < a := by decide
  exact acyclic_of_descending (g := headings s) (hall s hs) t

theorem targets_headings (s : Slot) : (headings s).targets headingAbove = [1, 4] :=
  rfl

theorem nearest_containing_headings :
    (headings 1).meetingHops? 3 4 = some 2 ∧
      (headings 1).nearest headingAbove ((headings 1).candidatesFor headingAbove) 3 =
        [⟨1, "h1_1", 2, 2, 2, some .title⟩] := by
  refine ⟨by decide, ?_⟩
  obtain ⟨t, d, n, h, hn, hclear, _⟩ := nearest_containing (headings 1)
    (acyclic_headings 1 (by decide)) headingAbove rfl (by decide) 3 ⟨1, by decide, by decide⟩
  have ht : t = 1 := by
    have hall : ∀ t ∈ [1, 4], (headings 1).isAncestor t 3 = true → t = 1 := by decide
    exact hall t (targets_headings 1 ▸ h.target) h.above
  subst ht
  have hd : d = 2 := Option.some.inj (h.hops.symm.trans (by decide))
  subst hd
  cases hn
  refine hclear ?_
  rw [targets_headings]
  decide

theorem nearest_hides_containing :
    (∀ s, ¬ Relation.TransGen (headings 2).Up s s) ∧
      headingAbove.containing = true ∧ 0 < headingAbove.topNeighbours.toNat ∧
      (∃ t ∈ (headings 2).targets headingAbove, (headings 2).isAncestor t 3 = true) ∧
      (headings 2).nearest headingAbove ((headings 2).candidatesFor headingAbove) 3 = [] := by
  have hacyclic := acyclic_headings 2 (by decide)
  have habove : (headings 2).NearestAbove headingAbove 3 1 2 := by
    refine ⟨by decide, by decide, by decide, ?_⟩
    rw [targets_headings]
    decide
  refine ⟨hacyclic, rfl, by decide, ⟨1, habove.target, habove.above⟩, ?_⟩
  have hmeet : (headings 2).meetingHops? 3 4 = some 1 := by decide
  exact habove.nearest_of_hidden hacyclic rfl (by decide) hmeet (by decide)

end Graph

end PageGraph
