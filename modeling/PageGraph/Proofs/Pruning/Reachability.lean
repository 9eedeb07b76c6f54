import PageGraph.Proofs.Pruning.Passes

namespace PageGraph.Graph

theorem Torso.walk_gone_iff {g h : Graph} (hg : g.Simple) (s t : Slot) :
    g.Walk (fun r => g.contains r = true ∧ h.contains r = false) s t ↔
      g.Walk (fun r => h.contains r = false) s t := by
  constructor
  · intro w
    exact w.mono fun q r _ hr => hr.2
  · intro w
    exact w.mono fun q r he hr => ⟨hg.contains_right he, hr⟩

theorem prune_edge_iff_walk (g : Graph) (hg : g.Simple) (config : PruneConfig) :
    ∃ h r, g.prune config = .ok (h, r) ∧ h.Simple ∧
      (∀ s m, h.node? s = some m → ∃ n, g.node? s = some n ∧ m.id = n.id ∧ m.tag = n.tag ∧
        m.name = n.name ∧ m.index = n.index ∧ m.payload = n.payload ∧ m.labels = n.labels) ∧
      (∀ s t, h.contains s = true → h.contains t = true →
        (h.Edge s t ↔ g.Walk (fun r => g.contains r = true ∧ h.contains r = false) s t)) ∧
      ∀ s t, h.contains s = true → h.contains t = true →
        (Relation.TransGen h.Edge s t ↔ Relation.TransGen g.Edge s t) := by
  obtain ⟨h, r, hok, p⟩ := prune_ok hg config
  have ht := torso_settled (p.torso hg)
  refine ⟨h.settled, _, hok, (p.simple hg).settled, ?_, ?_, fun s t => ht.reaches_iff⟩
  · intro s m hm
    obtain ⟨n, hn, hmn⟩ := ht.node s m hm
    exact ⟨n, hn, (Node.fixed_eq_iff m n).mp hmn⟩
  · intro s t hs hst
    rw [Torso.walk_gone_iff hg, ht.edge s t]
    simp only [hs, hst, true_and]

def detour : Graph where
  slots := #[
    some ⟨"a_1", "a", "a", 0, [], none, true, .empty, none⟩,
    some ⟨"div_1", "div", "div", 1, ["x"], none, false, .empty, some 9⟩,
    some ⟨"span_1", "span", "span", 2, ["y"], none, false, .empty, some 1⟩,
    some ⟨"p_1", "p", "p", 3, [], some { text := "t" }, false, .empty, some 2⟩]
  free := []
  edges := [(0, 1), (1, 1), (1, 2), (2, 3)]

theorem simple_detour : detour.Simple := by
  constructor
  · decide
  · decide

theorem prune_edge_iff_walk_detour :
    detour.Simple ∧ ∃ h r, detour.prune {} = .ok (h, r) ∧ h.edges = [(0, 3)] ∧
      detour.Walk (fun r => detour.contains r = true ∧ h.contains r = false) 0 3 := by
  refine ⟨simple_detour, ?_⟩
  obtain ⟨h, r, hok, _, _, hedge, _⟩ := prune_edge_iff_walk detour simple_detour {}
  have hrun : (detour.prune {}).map (fun p => (p.1.edges, p.1.contains 0, p.1.contains 3)) =
      .ok ([(0, 3)], true, true) := by decide +kernel
  simp only [hok, Except.map, Except.ok.injEq, Prod.mk.injEq] at hrun
  obtain ⟨hedges, h0, h3⟩ := hrun
  refine ⟨h, r, hok, hedges, (hedge 0 3 h0 h3).mp ?_⟩
  rw [Edge, hedges]
  exact List.mem_singleton_self _

end PageGraph.Graph
