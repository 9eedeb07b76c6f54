import Mathlib.Algebra.BigOperators.Group.Finset.Piecewise
import PageGraph.Proofs.Graph.Ancestry
import PageGraph.Proofs.Graph.Degree

namespace PageGraph.Graph

structure Forest (g : Graph) : Prop where
  simple : g.Simple
  unique : ∀ p q s, g.Edge p s → g.Edge q s → p = q
  acyclic : ∀ s, ¬ Relation.TransGen g.Edge s s

structure Threaded (g : Graph) : Prop extends Forest g where
  parent : ∀ s p, g.Up s p ↔ g.Edge p s

structure Rooted (g : Graph) : Prop extends Forest g where
  parent : ∀ s n, g.node? s = some n → n.parent = (g.parents s).head?
  isRoot : ∀ s n, g.node? s = some n → (n.isRoot = true ↔ g.inDegree s = 0)

theorem forest_of_rank {g : Graph} (hg : g.Simple)
    (hunique : ∀ e ∈ g.edges, ∀ f ∈ g.edges, e.2 = f.2 → e.1 = f.1) (rank : Slot → Nat)
    (hrank : ∀ e ∈ g.edges, rank e.1 < rank e.2) : g.Forest := by
  refine ⟨hg, fun p q s hp hq => hunique _ hp _ hq rfl, fun s hs => ?_⟩
  have hlt : rank s < rank s := rank_lt_of_reaches rank (fun _ _ he => hrank _ he) hs
  exact Nat.lt_irrefl _ hlt

theorem Forest.inDegree_le_one {g : Graph} (hg : g.Forest) (s : Slot) : g.inDegree s ≤ 1 := by
  have hnd := hg.simple.nodup_parents s
  have hmem := fun p => (mem_parents g s p).mp
  rw [inDegree]
  cases h : g.parents s with
  | nil => exact Nat.zero_le 1
  | cons p rest =>
    cases rest with
    | nil => exact Nat.le_refl 1
    | cons q rest =>
      rw [h] at hnd hmem
      have hpq := hg.unique p q s (hmem p (by simp)) (hmem q (by simp))
      simp [hpq] at hnd

theorem Forest.threaded {g : Graph} (hg : g.Forest)
    (hparent : ∀ s n, g.node? s = some n → n.parent = (g.parents s).head?) : g.Threaded := by
  refine ⟨hg, fun s p => ?_⟩
  constructor
  · intro h
    obtain ⟨n, hn, hp⟩ := Option.bind_eq_some_iff.mp h
    rw [hparent s n hn] at hp
    exact (mem_parents g s p).mp (List.mem_of_mem_head? hp)
  · intro h
    obtain ⟨n, hn⟩ := (contains_iff g s).mp (hg.simple.contains_right h)
    have hmem := (mem_parents g s p).mpr h
    cases hps : g.parents s with
    | nil => simp [hps] at hmem
    | cons q qs =>
      have hq : g.Edge q s := (mem_parents g s q).mp (by simp [hps])
      rw [Up, parent?, hn, Option.bind_some, hparent s n hn, hps, List.head?_cons,
        hg.unique p q s h hq]

theorem Threaded.acyclic_up {g : Graph} (hg : g.Threaded) (s : Slot) :
    ¬ Relation.TransGen g.Up s s := by
  intro h
  have hswap : Relation.TransGen (Function.swap g.Edge) s s :=
    Relation.TransGen.mono (fun a b hab => (hg.parent a b).mp hab) s s h
  exact hg.acyclic s (Relation.transGen_swap.mp hswap)

namespace Rooted

variable {g : Graph}

theorem threaded (hg : g.Rooted) : g.Threaded :=
  hg.toForest.threaded hg.parent

theorem up_iff (hg : g.Rooted) (s p : Slot) : g.Up s p ↔ g.Edge p s :=
  hg.threaded.parent s p

theorem acyclic_up (hg : g.Rooted) (s : Slot) : ¬ Relation.TransGen g.Up s s :=
  hg.threaded.acyclic_up s

theorem isChain_ancestors (hg : g.Rooted) (s : Slot) :
    (g.ancestors s).IsChain fun c p => g.Edge p c :=
  (g.isChain_chain _ s).imp fun c p h => (hg.up_iff c p).mp h

theorem contains_of_mem_ancestors (hg : g.Rooted) {s t : Slot} (hs : g.contains s = true)
    (ht : t ∈ g.ancestors s) : g.contains t = true := by
  have hreach := (g.mem_ancestors_iff s t).mp ht
  rcases Relation.ReflTransGen.cases_tail hreach with rfl | ⟨c, _, hc⟩
  · exact hs
  · exact hg.simple.contains_left ((hg.up_iff c t).mp hc)

theorem ancestors_end_root (hg : g.Rooted) (s : Slot) (hs : g.contains s = true) :
    ∃ r ∈ g.roots, (g.ancestors s).getLast? = some r := by
  obtain ⟨r, hr, hno⟩ := ancestors_end hg.acyclic_up s
  refine ⟨r, ?_, hr⟩
  have hlive := hg.contains_of_mem_ancestors hs (List.mem_of_getLast? hr)
  obtain ⟨n, hn⟩ := (contains_iff g r).mp hlive
  refine (mem_slotsWhere g _ r).mpr ⟨n, hn, (hg.isRoot r n hn).mpr ?_⟩
  rw [inDegree_eq_zero_iff]
  intro p hp
  rw [← hg.up_iff, Up, hno] at hp
  contradiction

theorem designatedRoot (hg : g.Rooted) (s : Slot)
    (hs : g.contains s = true) : ∃ r, g.designatedRoot = .ok r := by
  obtain ⟨r, hr, _⟩ := hg.ancestors_end_root s hs
  have hcount : g.nodeCount ≠ 0 := by
    rw [← card_live]
    exact Finset.card_ne_zero_of_mem ((mem_live g s).mpr hs)
  cases hroots : g.roots with
  | nil => simp [hroots] at hr
  | cons q qs => exact ⟨q, by simp [Graph.designatedRoot, hcount, hroots]⟩

theorem exists_designatedRoot_of_live (hg : g.Rooted) (hcount : g.nodeCount ≠ 0) :
    ∃ r, g.designatedRoot = .ok r := by
  rw [← card_live, Finset.card_ne_zero] at hcount
  obtain ⟨s, hs⟩ := hcount
  exact hg.designatedRoot s ((mem_live g s).mp hs)

theorem length_roots (hg : g.Rooted) :
    g.roots.length = (g.live.filter fun s => g.inDegree s = 0).card := by
  rw [roots, ← List.toFinset_card_of_nodup (g.nodup_slotsWhere _)]
  congr 1
  ext s
  rw [List.mem_toFinset, mem_slotsWhere, Finset.mem_filter, mem_live, contains_iff]
  constructor
  · rintro ⟨n, hn, hroot⟩
    exact ⟨⟨n, hn⟩, (hg.isRoot s n hn).mp hroot⟩
  · rintro ⟨⟨n, hn⟩, h0⟩
    exact ⟨n, hn, (hg.isRoot s n hn).mpr h0⟩

theorem edgeCount_add_length_roots (hg : g.Rooted) :
    g.edgeCount + g.roots.length = g.nodeCount := by
  have hall : g.edges.toFinset.filter (·.2 ∈ g.live) = g.edges.toFinset := by
    refine Finset.filter_true_of_mem fun e he => (mem_live g e.2).mpr ?_
    exact (hg.simple.live e (List.mem_toFinset.mp he)).2
  have hone (s : Slot) : g.inDegree s + (if g.inDegree s = 0 then 1 else 0) = 1 := by
    have := hg.inDegree_le_one s
    split <;> omega
  calc g.edgeCount + g.roots.length
      = ∑ s ∈ g.live, g.inDegree s + ∑ s ∈ g.live, (if g.inDegree s = 0 then 1 else 0) := by
        rw [hg.simple.sum_inDegree, hall, List.toFinset_card_of_nodup hg.simple.nodup,
          hg.length_roots, Finset.card_filter, edgeCount]
    _ = ∑ _s ∈ g.live, 1 := by
        rw [← Finset.sum_add_distrib]
        exact Finset.sum_congr rfl fun s _ => hone s
    _ = g.nodeCount := by
        rw [← Finset.card_eq_sum_ones, card_live]

end Rooted

end PageGraph.Graph
