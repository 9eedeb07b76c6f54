import PageGraph.Proofs.Graph.Ancestry

namespace PageGraph.Graph

theorem length_chain_le (g : Graph) (length : Nat) (s : Slot) :
    (g.chain length s).length ≤ length := by
  induction length generalizing s with
  | zero => exact Nat.le_refl 0
  | succ length ih =>
    rw [chain, List.length_cons]
    cases g.parent? s with
    | none => exact Nat.succ_le_succ (Nat.zero_le length)
    | some p => exact Nat.succ_le_succ (ih p)

theorem hops?_eq_some_iff_isLeast (g : Graph) (s t : Slot) (k : Nat) :
    g.hops? s t = some k ↔ IsLeast {n | g.above? n s = some t} k := by
  have hat (j : Nat) (hj : j < (g.ancestors s).length) :
      some (g.ancestors s)[j] = g.above? j s := by
    have := g.length_chain_le (g.nodeCount + 1) s
    rw [← getElem?_ancestors g s (Nat.le_of_lt_succ (Nat.lt_of_lt_of_le hj this)),
      List.getElem?_eq_getElem hj]
  rw [hops?, List.idxOf?_eq_some_iff]
  constructor
  · rintro ⟨hk, hfound, hbefore⟩
    refine ⟨?_, ?_⟩
    · exact (hat k hk).symm.trans (congrArg some hfound)
    · intro n hn
      by_contra hlt
      have hnk : n < k := Nat.lt_of_not_le hlt
      have hsame := (hat n (Nat.lt_trans hnk hk)).trans hn
      exact hbefore n hnk (Option.some.inj hsame)
  · intro hleast
    have hsome := g.getElem?_ancestors s (isLeast_le_nodeCount hleast)
    obtain ⟨hk, hfound⟩ := List.getElem?_eq_some_iff.mp (hsome.trans hleast.1)
    refine ⟨hk, hfound, ?_⟩
    intro j hj hearly
    have hmem := (hat j (Nat.lt_trans hj hk)).symm.trans (congrArg some hearly)
    have hle := hleast.2 hmem
    omega

theorem hops?_eq_none_iff (g : Graph) (s t : Slot) :
    g.hops? s t = none ↔ ∀ n, g.above? n s ≠ some t := by
  rw [hops?, List.idxOf?_eq_none_iff, mem_ancestors_iff, reaches_iff_above?, not_exists]

theorem ancestors_complete (g : Graph) (s : Slot) :
    (g.ancestors s).length ≤ g.nodeCount + 1 ∧
      (g.ancestors s).head? = some s ∧
      (g.ancestors s).IsChain g.Up ∧
      (∀ t, t ∈ g.ancestors s ↔ Relation.ReflTransGen g.Up s t) ∧
      ((∀ t, Relation.ReflTransGen g.Up s t → ¬ Relation.TransGen g.Up t t) →
        (g.ancestors s).Nodup ∧ ∃ r, (g.ancestors s).getLast? = some r ∧ g.parent? r = none) ∧
      (∀ t k, g.hops? s t = some k ↔ IsLeast {n | g.above? n s = some t} k) ∧
      ∀ t, g.hops? s t = none ↔ ∀ n, g.above? n s ≠ some t := by
  refine ⟨g.length_chain_le _ s, g.head?_ancestors s, g.isChain_chain _ s, g.mem_ancestors_iff s,
    ?_, g.hops?_eq_some_iff_isLeast s, g.hops?_eq_none_iff s⟩
  intro hno
  have hnd : (g.ancestors s).Nodup := nodup_chain_of_no_return hno
  exact ⟨hnd, ancestors_end_of_nodup hnd⟩

def uprooted : Graph where
  slots := #[
    none,
    some ⟨"div_1", "div", "div", 1, [], none, true, .empty, some 0⟩,
    some ⟨"ul_1", "ul", "ul", 2, [], none, false, .empty, some 1⟩,
    some ⟨"li_1", "li", "li", 3, [], none, false, .empty, some 2⟩]
  free := [0]
  edges := [(1, 2), (2, 3)]

theorem ancestors_complete_uprooted :
    (∀ t, Relation.ReflTransGen uprooted.Up 3 t → ¬ Relation.TransGen uprooted.Up t t) ∧
      (uprooted.ancestors 3).length = uprooted.nodeCount + 1 ∧
      (uprooted.ancestors 3).Nodup ∧ (uprooted.ancestors 3).getLast? = some 0 ∧
      IsLeast {n | uprooted.above? n 3 = some 0} 3 := by
  have hno (t : Slot) (_ : Relation.ReflTransGen uprooted.Up 3 t) :
      ¬ Relation.TransGen uprooted.Up t t := acyclic_of_descending (by decide) t
  obtain ⟨_, _, _, _, hwhole, hhops, _⟩ := ancestors_complete uprooted 3
  exact ⟨hno, by decide, (hwhole hno).1, by decide, (hhops 0 3).mp (by decide)⟩

end PageGraph.Graph
