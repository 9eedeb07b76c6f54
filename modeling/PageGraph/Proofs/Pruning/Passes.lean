import PageGraph.Proofs.Pruning.Dissolution

namespace PageGraph

def PruneReport.after (r : PruneReport) (g : Graph) (config : PruneConfig) : PruneReport :=
  { r with
    emptyLeaves := r.emptyLeaves + (g.emptyLeaves config).length
    bridges := r.bridges + (g.bridges config).length
    removed := r.removed + (g.removable config).length
    passes := r.passes + 1 }

namespace Graph

theorem mem_removable (g : Graph) (config : PruneConfig) (s : Slot) (n : Node) :
    (s, n) ∈ g.removable config ↔ g.node? s = some n ∧ config.keeps n.tag = false ∧
      (n.payload = none ∧ g.outDegree s = 0 ∨ g.inDegree s = g.outDegree s) := by
  simp [removable, mem_nodes, isEmptyLeaf, isBridge]

theorem mem_map_removable {g : Graph} (config : PruneConfig) {s : Slot} {n : Node}
    (hn : g.node? s = some n) :
    s ∈ (g.removable config).map (·.1) ↔ config.keeps n.tag = false ∧
      (n.payload = none ∧ g.outDegree s = 0 ∨ g.inDegree s = g.outDegree s) := by
  rw [List.mem_map]
  constructor
  · rintro ⟨⟨t, m⟩, hm, rfl⟩
    obtain ⟨hm, h⟩ := (mem_removable g config t m).mp hm
    cases hn.symm.trans hm
    exact h
  · intro h
    exact ⟨(s, n), (mem_removable g config s n).mpr ⟨hn, h⟩, rfl⟩

theorem nodup_removable (g : Graph) (config : PruneConfig) :
    ((g.removable config).map (·.1)).Nodup :=
  g.nodup_map_fst_nodes.sublist (List.filter_sublist.map _)

theorem contains_removable (g : Graph) (config : PruneConfig) :
    ∀ e ∈ g.removable config, g.contains e.1 = true := by
  intro e he
  exact (contains_iff g e.1).mpr ⟨e.2, ((mem_removable g config e.1 e.2).mp he).1⟩

theorem length_removable (g : Graph) (config : PruneConfig) :
    (g.removable config).length = (g.emptyLeaves config).length + (g.bridges config).length := by
  unfold removable emptyLeaves bridges
  induction g.nodes with
  | nil => rfl
  | cons e es ih =>
    obtain ⟨s, n⟩ := e
    simp only [List.filter_cons]
    cases config.keeps n.tag <;> cases g.isEmptyLeaf s n <;> cases g.isBridge s <;>
      simp [ih] <;> omega

inductive Passes (config : PruneConfig) : Graph → PruneReport → Graph → PruneReport → Prop where
  | done {g : Graph} (r : PruneReport) (h : g.removable config = []) : Passes config g r g r
  | pass {g g' h : Graph} {r r' : PruneReport} (hne : g.removable config ≠ [])
      (d : Dissolves g ((g.removable config).map (·.1)) g')
      (p : Passes config g' (r.after g config) h r') : Passes config g r h r'

theorem prunePasses_ok {g : Graph} (hg : g.Simple) (config : PruneConfig) (r : PruneReport) :
    ∃ h r', prunePasses config g r = .ok (h, r') ∧ Passes config g r h r' := by
  obtain ⟨g', hok, d⟩ := dissolveAll_ok hg (g.removable config) (g.nodup_removable config)
    (g.contains_removable config)
  have hcount := d.nodeCount hg
  rw [prunePasses, hok]
  by_cases hr : g.removable config = []
  · rw [hr] at d
    cases d
    exact ⟨g, r, by simp, .done r hr⟩
  · have hlt : g'.nodeCount < g.nodeCount := by
      rw [List.length_map] at hcount
      have := List.length_pos_of_ne_nil hr
      omega
    obtain ⟨h, r', hrest, p⟩ := prunePasses_ok (d.simple hg) config (r.after g config)
    refine ⟨h, r', ?_, .pass hr d p⟩
    simp only [hlt, if_true]
    exact hrest
termination_by g.nodeCount

namespace Passes

variable {config : PruneConfig} {g h : Graph} {r r' : PruneReport}

theorem simple (p : Passes config g r h r') (hg : g.Simple) : h.Simple := by
  induction p with
  | done r hr => exact hg
  | pass hne d p ih => exact ih (d.simple hg)

theorem torso (p : Passes config g r h r') (hg : g.Simple) : Torso g h := by
  induction p with
  | done r hr => exact .refl hg
  | pass hne d p ih => exact (d.torso hg).trans (ih (d.simple hg))

theorem removable_eq_nil (p : Passes config g r h r') : h.removable config = [] := by
  induction p with
  | done r hr => exact hr
  | pass hne d p ih => exact ih

end Passes

def settled (g : Graph) : Graph :=
  g.flagOrphans.refreshParents

theorem edges_settled (g : Graph) : g.settled.edges = g.edges :=
  rfl

theorem node?_settled (g : Graph) (s : Slot) :
    g.settled.node? s = (g.node? s).map fun n =>
      { n with isRoot := n.isRoot || g.inDegree s = 0, parent := (g.parents s).head? } := by
  simp only [settled, refreshParents, flagOrphans, node?, Array.getElem?_mapIdx]
  cases g.slots[s]? with
  | none => rfl
  | some o => cases o <;> rfl

theorem contains_settled (g : Graph) (s : Slot) : g.settled.contains s = g.contains s := by
  rw [contains, node?_settled, Option.isSome_map, contains]

theorem Simple.settled {g : Graph} (hg : g.Simple) : g.settled.Simple :=
  hg.congr g.edges_settled g.contains_settled

theorem torso_settled {g h : Graph} (ht : Torso g h) : Torso g h.settled := by
  constructor
  · intro s m hm
    rw [node?_settled] at hm
    obtain ⟨n, hn, rfl⟩ := Option.map_eq_some_iff.mp hm
    exact ht.node s n hn
  · intro s t
    simp only [contains_settled]
    exact ht.edge s t

theorem prune_ok {g : Graph} (hg : g.Simple) (config : PruneConfig) :
    ∃ h r, g.prune config = .ok (h.settled, { r with roots := h.settled.roots.length }) ∧
      Passes config g {} h r := by
  obtain ⟨h, r, hok, p⟩ := prunePasses_ok hg config {}
  refine ⟨h, r, ?_, p⟩
  simp only [prune, hok]
  rfl

end Graph

end PageGraph
