import Mathlib.Algebra.BigOperators.Group.Finset.Basic
import Mathlib.Data.Nat.Choose.Basic
import Mathlib.Data.Set.Card
import PageGraph.Proofs.Classify.Grid
import PageGraph.Proofs.Graph.ForestDepth

namespace PageGraph

theorem length_pairs (xs : List α) : (pairs xs).length = xs.length.choose 2 := by
  induction xs with
  | nil => rfl
  | cons x xs ih =>
    rw [pairs, List.length_append, List.length_map, ih, List.length_cons, Nat.choose_succ_succ,
      Nat.choose_one_right]

theorem pairs_filter (p : α → Bool) (xs : List α) :
    pairs (xs.filter p) = (pairs xs).filter fun e => p e.1 && p e.2 := by
  induction xs with
  | nil => rfl
  | cons x xs ih =>
    rw [pairs, List.filter_append, ← ih, List.filter_map]
    by_cases hx : p x = true
    · simp [hx, pairs, Function.comp_def]
    · simp [hx, Function.comp_def]

theorem fst_mem_of_mem_pairs {xs : List α} {e : α × α} (he : e ∈ pairs xs) : e.1 ∈ xs := by
  induction xs with
  | nil => simp [pairs] at he
  | cons x xs ih =>
    rcases List.mem_append.mp he with he | he
    · obtain ⟨_, _, rfl⟩ := List.mem_map.mp he
      exact List.mem_cons_self
    · exact List.mem_cons_of_mem _ (ih he)

theorem nodup_pairs {xs : List α} (hxs : xs.Nodup) : (pairs xs).Nodup := by
  induction xs with
  | nil => exact List.nodup_nil
  | cons x xs ih =>
    obtain ⟨hx, hxs⟩ := List.nodup_cons.mp hxs
    refine List.nodup_append.mpr ⟨hxs.map fun a b hab => (Prod.mk.inj hab).2, ih hxs, ?_⟩
    rintro _ hd e he rfl
    obtain ⟨_, _, rfl⟩ := List.mem_map.mp hd
    exact hx (fst_mem_of_mem_pairs he)

theorem countP_eq_sum {l : List β} (p : β → Bool) {key : β → Nat} {bound : Nat}
    (hkey : ∀ e ∈ l, key e < bound) :
    l.countP p = ∑ d ∈ Finset.range bound, l.countP fun e => p e && key e = d := by
  induction l with
  | nil => simp
  | cons e l ih =>
    obtain ⟨he, hl⟩ := List.forall_mem_cons.mp hkey
    simp only [List.countP_cons, Finset.sum_add_distrib, ← ih hl]
    by_cases hp : p e = true
    · simp [hp, he]
    · simp [hp]

theorem countP_pairs {xs : List α} {key : α → Nat} {bound : Nat}
    (hkey : ∀ x ∈ xs, key x < bound) :
    (pairs xs).countP (fun e => key e.1 = key e.2) =
      ∑ d ∈ Finset.range bound, (xs.countP (key · = d)).choose 2 := by
  rw [countP_eq_sum _ fun e he => hkey e.1 (fst_mem_of_mem_pairs he)]
  refine Finset.sum_congr rfl fun d _ => ?_
  rw [List.countP_eq_length_filter (l := xs), ← length_pairs, pairs_filter,
    ← List.countP_eq_length_filter]
  refine List.countP_congr fun e _ => ?_
  simp
  grind

theorem length_eq_ncard {l : List α} (hl : l.Nodup) {S : Set α} (hS : ∀ x, x ∈ l ↔ x ∈ S) :
    l.length = S.ncard := by
  classical
  have heq : S = l.toFinset := by
    ext x
    simp [hS]
  rw [heq, Set.ncard_coe_finset, List.toFinset_card_of_nodup hl]

namespace Graph

variable {g : Graph} {root : Slot}

def payloadsAt (g : Graph) (root : Slot) (d : Nat) : Set Slot :=
  {s | (g.payloadAt s).isSome = true ∧ g.Distance root s d}

theorem nodup_slots_payloadDepths (g : Graph) (root : Slot) :
    ((g.payloadDepths root).map (·.1)).Nodup :=
  List.pairwise_map.mpr ((g.pairwise_payloadDepths root).imp Nat.ne_of_lt)

theorem Simple.countP_payloadDepths (hg : g.Simple) (root : Slot) (d : Nat) :
    (g.payloadDepths root).countP (·.2 = d) = (g.payloadsAt root d).ncard := by
  rw [List.countP_eq_length_filter, ← List.length_map (·.1)]
  apply length_eq_ncard
  · exact (g.nodup_slots_payloadDepths root).sublist (List.filter_sublist.map _)
  · intro s
    simp only [List.mem_map, List.mem_filter, decide_eq_true_eq, Prod.exists]
    constructor
    · rintro ⟨_, _, ⟨hmem, rfl⟩, rfl⟩
      exact (hg.mem_payloadDepths _ _).mp hmem
    · intro hs
      exact ⟨s, d, ⟨(hg.mem_payloadDepths s d).mpr hs, rfl⟩, rfl⟩

theorem Simple.count_votes (hg : g.Simple) (root s : Slot) :
    (g.votes root).count s = {p : Slot × Slot | g.Vote root p.1 p.2 s}.ncard := by
  have hpairs := nodup_pairs (g.nodup_slots_payloadDepths root)
  rw [pairs_map] at hpairs
  rw [votes_eq, List.count_filterMap, List.countP_eq_length_filter,
    ← List.length_map fun e : (Slot × Nat) × Slot × Nat => (e.1.1, e.2.1)]
  apply length_eq_ncard
  · exact hpairs.sublist (List.filter_sublist.map _)
  · rintro ⟨a, b⟩
    simp only [Set.mem_ofPred_eq, hg.vote_iff, List.mem_map, List.mem_filter, beq_iff_eq]
    constructor
    · rintro ⟨⟨⟨_, d⟩, ⟨_, e⟩⟩, ⟨hpair, hvote⟩, ⟨⟩⟩
      obtain ⟨hde, hmeet⟩ := Option.ite_none_right_eq_some.mp hvote
      obtain rfl : d = e := hde
      exact ⟨d, hpair, hmeet⟩
    · rintro ⟨d, hpair, hmeet⟩
      exact ⟨((a, d), (b, d)), ⟨hpair, (if_pos rfl).trans hmeet⟩, rfl⟩

theorem Rooted.length_votes (hg : g.Rooted) (root : Slot) :
    (g.votes root).length =
      ∑ d ∈ Finset.range (g.nodeCount + 1), (g.payloadsAt root d).ncard.choose 2 := by
  have hdepth (e : Slot × Nat) (he : e ∈ g.payloadDepths root) : g.Distance root e.1 e.2 :=
    ((hg.simple.mem_payloadDepths e.1 e.2).mp he).2
  have hbound (e : Slot × Nat) (he : e ∈ g.payloadDepths root) : e.2 < g.nodeCount + 1 :=
    Nat.lt_succ_of_le ((hdepth e he).le_nodeCount hg.simple)
  simp only [← hg.simple.countP_payloadDepths, ← countP_pairs hbound]
  rw [votes_eq, List.length_filterMap_eq_countP]
  refine List.countP_congr ?_
  rintro ⟨⟨a, d⟩, ⟨b, e⟩⟩ hpair
  obtain ⟨ha, hb, -⟩ := (g.mem_pairs_payloadDepths root _ _).mp hpair
  by_cases hde : d = e
  · subst hde
    obtain ⟨t, ht⟩ := hg.exists_lca?_of_level (hdepth (a, d) ha) (hdepth (b, d) hb)
    simp [ht]
  · simp [hde]

theorem Vote.contains (hg : g.Rooted) {a b s : Slot} (h : g.Vote root a b s) :
    g.contains s = true := by
  obtain ⟨p, hp⟩ := Option.isSome_iff_exists.mp h.first
  obtain ⟨n, hn, _⟩ := Option.bind_eq_some_iff.mp hp
  have hmeet := lowestCommon_of_lca? hg.acyclic_up h.meet
  exact hg.contains_of_mem_ancestors ((g.contains_iff a).mpr ⟨n, hn⟩) hmeet.left

theorem Vote.two_le_outDegree (hg : g.Rooted) {a b s : Slot} (h : g.Vote root a b s) :
    2 ≤ g.outDegree s := by
  obtain ⟨d, ha, hb⟩ := h.level
  have hmeet := lowestCommon_of_lca? hg.acyclic_up h.meet
  obtain ⟨hsa, hsb⟩ := hg.ne_of_level ha hb (Nat.ne_of_lt h.inOrder) hmeet
  exact hg.two_le_outDegree hmeet hsa hsb

theorem Rooted.sum_count_votes (hg : g.Rooted) (root : Slot) :
    (g.nodes.map fun e => (g.votes root).count e.1).sum = (g.votes root).length := by
  have hlive : ∀ s ∈ (g.votes root : Multiset Slot), s ∈ g.live := by
    intro s hs
    obtain ⟨a, b, hvote⟩ := (hg.simple.mem_votes s).mp hs
    exact (mem_live g s).mpr (hvote.contains hg)
  rw [← Multiset.coe_card, ← Multiset.sum_count_eq_card hlive, live,
    List.sum_toFinset _ g.nodup_map_fst_nodes, List.map_map]
  simp only [Function.comp_def, Multiset.coe_count]

structure Polled (g : Graph) (root : Slot) (candidates : List GridCandidate) : Prop where
  inOrder : (candidates.map (·.slot)).Pairwise (· < ·)
  voted : ∀ s, s ∈ candidates.map (·.slot) ↔ ∃ a b, g.Vote root a b s
  node : ∀ c ∈ candidates, ∃ n, g.node? c.slot = some n ∧ c.id = n.id
  homogeneous : ∀ c ∈ candidates, c.homogeneous = g.homogeneous c.slot
  incidence : ∀ c ∈ candidates, c.incidence = {p : Slot × Slot | g.Vote root p.1 p.2 c.slot}.ncard
  branch : ∀ c ∈ candidates, 2 ≤ g.outDegree c.slot
  conserved : (candidates.map (·.incidence)).sum =
    ∑ d ∈ Finset.range (g.nodeCount + 1),
      (g.payloadsAt root d).ncard * ((g.payloadsAt root d).ncard - 1) / 2
  depth : ∀ d, (g.payloadsAt root d).Nonempty → d ≤ g.nodeCount

theorem map_slot_gridCandidates {candidates : List GridCandidate}
    (hroot : g.designatedRoot = .ok root) (h : g.gridCandidates = .ok candidates) :
    candidates.map (·.slot) = (g.nodes.map (·.1)).filter (g.votes root).contains := by
  rw [gridCandidates_eq hroot, Except.ok.injEq] at h
  subst h
  rw [List.map_filterMap, List.filter_map, ← List.filterMap_eq_map, List.filterMap_filter]
  refine List.filterMap_congr fun e _ => ?_
  by_cases hvote : e.1 ∈ g.votes root
  · have hcount := (List.count_pos_iff.mpr hvote).ne'
    simp [hvote, hcount]
  · simp [hvote, List.count_eq_zero_of_not_mem hvote]

theorem sum_incidence_gridCandidates {candidates : List GridCandidate}
    (hroot : g.designatedRoot = .ok root) (h : g.gridCandidates = .ok candidates) :
    (candidates.map (·.incidence)).sum = (g.nodes.map fun e => (g.votes root).count e.1).sum := by
  rw [gridCandidates_eq hroot, Except.ok.injEq] at h
  subst h
  induction g.nodes with
  | nil => rfl
  | cons e nodes ih =>
    rw [List.filterMap_cons, List.map_cons, List.sum_cons, ← ih]
    by_cases hcount : (g.votes root).count e.1 = 0
    · simp [hcount]
    · simp [hcount]

theorem mem_gridCandidates {candidates : List GridCandidate}
    (hroot : g.designatedRoot = .ok root) (h : g.gridCandidates = .ok candidates)
    {c : GridCandidate} (hc : c ∈ candidates) :
    (∃ n, g.node? c.slot = some n ∧ c.id = n.id) ∧ c.homogeneous = g.homogeneous c.slot ∧
      c.incidence = (g.votes root).count c.slot := by
  rw [gridCandidates_eq hroot, Except.ok.injEq] at h
  subst h
  obtain ⟨⟨s, n⟩, hmem, hcandidate⟩ := List.mem_filterMap.mp hc
  obtain ⟨_, ⟨⟩⟩ := Option.ite_none_left_eq_some.mp hcandidate
  exact ⟨⟨n, (g.mem_nodes s n).mp hmem, rfl⟩, rfl, rfl⟩

theorem Rooted.gridCandidates_polled (hg : g.Rooted) (hroot : g.designatedRoot = .ok root) :
    ∃ candidates, g.gridCandidates = .ok candidates ∧ g.Polled root candidates := by
  obtain ⟨candidates, hok⟩ : ∃ candidates, g.gridCandidates = .ok candidates :=
    ⟨_, gridCandidates_eq hroot⟩
  refine ⟨candidates, hok, ?_⟩
  have hslots := map_slot_gridCandidates hroot hok
  have hvoted (s : Slot) : s ∈ candidates.map (·.slot) ↔ ∃ a b, g.Vote root a b s := by
    rw [hslots, List.mem_filter, List.contains_iff_mem, hg.simple.mem_votes, mem_map_fst_nodes]
    refine and_iff_right_of_imp ?_
    rintro ⟨a, b, hvote⟩
    exact hvote.contains hg
  constructor
  · rw [hslots]
    exact g.pairwise_nodes.filter _
  · exact hvoted
  · intro c hc
    exact (mem_gridCandidates hroot hok hc).1
  · intro c hc
    exact (mem_gridCandidates hroot hok hc).2.1
  · intro c hc
    rw [(mem_gridCandidates hroot hok hc).2.2, hg.simple.count_votes]
  · intro c hc
    obtain ⟨a, b, hvote⟩ := (hvoted c.slot).mp (List.mem_map_of_mem hc)
    exact hvote.two_le_outDegree hg
  · rw [sum_incidence_gridCandidates hroot hok, hg.sum_count_votes, hg.length_votes]
    simp only [Nat.choose_two_right]
  · rintro d ⟨s, _, hs⟩
    exact hs.le_nodeCount hg.simple

end Graph

end PageGraph
