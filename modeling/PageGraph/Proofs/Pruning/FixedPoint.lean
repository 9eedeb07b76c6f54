import PageGraph.Proofs.Pruning.Passes

namespace PageGraph

structure PruneReport.Balanced (r : PruneReport) : Prop where
  removed : r.removed = r.emptyLeaves + r.bridges
  passes : r.passes ≤ r.removed

namespace Graph

theorem balanced_after {r : PruneReport} (hr : r.Balanced) (g : Graph) (config : PruneConfig)
    (hne : g.removable config ≠ []) : (r.after g config).Balanced := by
  have hpos := List.length_pos_of_ne_nil hne
  have hsum := g.length_removable config
  have h1 := hr.removed
  have h2 := hr.passes
  constructor
  · simp only [PruneReport.after]
    omega
  · simp only [PruneReport.after]
    omega

namespace Passes

variable {config : PruneConfig} {g h : Graph} {r r' : PruneReport}

theorem balanced (p : Passes config g r h r') (hr : r.Balanced) : r'.Balanced := by
  induction p with
  | done r h => exact hr
  | pass hne d p ih => exact ih (balanced_after hr _ config hne)

theorem nodeCount (p : Passes config g r h r') (hg : g.Simple) :
    h.nodeCount + r'.removed = g.nodeCount + r.removed := by
  induction p with
  | done r hr => rfl
  | pass hne d p ih =>
    have hrest := ih (d.simple hg)
    have hpass := d.nodeCount hg
    rw [List.length_map] at hpass
    simp only [PruneReport.after] at hrest
    omega

theorem kept (p : Passes config g r h r') (hg : g.Simple) {s : Slot} {n : Node}
    (hn : g.node? s = some n) (hk : config.keeps n.tag = true) : h.contains s = true := by
  induction p generalizing n with
  | done r hr => exact (contains_iff _ s).mpr ⟨n, hn⟩
  | @pass g g' h r r' hne d p ih =>
    have hs : s ∉ (g.removable config).map (·.1) := by
      rw [mem_map_removable config hn, hk]
      exact fun h => Bool.noConfusion h.1
    obtain ⟨m, hm, hfixed⟩ := d.stays hg hn hs
    obtain ⟨_, htag, _⟩ := (Node.fixed_eq_iff m n).mp hfixed
    exact ih (d.simple hg) hm (htag ▸ hk)

end Passes

theorem removable_settled (g : Graph) (config : PruneConfig) (h : g.removable config = []) :
    g.settled.removable config = [] := by
  apply List.eq_nil_iff_forall_not_mem.mpr
  rintro ⟨s, m⟩ hm
  obtain ⟨hm, htag, hor⟩ := (mem_removable g.settled config s m).mp hm
  rw [node?_settled] at hm
  obtain ⟨n, hn, rfl⟩ := Option.map_eq_some_iff.mp hm
  have hmem := (mem_removable g config s n).mpr ⟨hn, htag, hor⟩
  rw [h] at hmem
  contradiction

theorem settled_settled (g : Graph) : g.settled.settled = g.settled := by
  refine ext_node? (by simp [settled, refreshParents, flagOrphans]) (fun s => ?_) rfl rfl
  have hdegree : g.settled.inDegree s = g.inDegree s := rfl
  have hparents : g.settled.parents s = g.parents s := rfl
  rw [node?_settled, node?_settled, hdegree, hparents]
  cases g.node? s with
  | none => rfl
  | some n => simp only [Option.map_some, Bool.or_assoc, Bool.or_self]

theorem prune_of_removable_eq_nil (g : Graph) (config : PruneConfig)
    (h : g.removable config = []) :
    g.prune config = .ok (g.settled, { roots := g.settled.roots.length }) := by
  have hpass : prunePasses config g {} = .ok (g, {}) := by
    rw [prunePasses, h]
    simp [dissolveAll, pure, Except.pure]
  simp only [prune, hpass]
  rfl

theorem prune_fixed_point (g : Graph) (hg : g.Simple) (config : PruneConfig) :
    ∃ h r, g.prune config = .ok (h, r) ∧
      (∀ s n, g.node? s = some n → config.keeps n.tag = true → h.contains s = true) ∧
      (∀ s n, h.node? s = some n → config.keeps n.tag = false →
        ¬ (n.payload = none ∧ h.outDegree s = 0) ∧ h.inDegree s ≠ h.outDegree s) ∧
      h.prune config = .ok (h,
        { emptyLeaves := 0, bridges := 0, removed := 0, roots := r.roots, passes := 0 }) ∧
      r.removed = r.emptyLeaves + r.bridges ∧ h.nodeCount + r.removed = g.nodeCount ∧
      r.passes ≤ r.removed := by
  obtain ⟨h, r, hok, p⟩ := prune_ok hg config
  have hnil := removable_settled h config p.removable_eq_nil
  have hbal := p.balanced ⟨rfl, Nat.le_refl 0⟩
  refine ⟨h.settled, _, hok, ?_, ?_, ?_, hbal.removed, ?_, hbal.passes⟩
  · intro s n hn hk
    rw [contains_settled]
    exact p.kept hg hn hk
  · intro s n hn hk
    have hnot : (s, n) ∉ h.settled.removable config := by simp [hnil]
    rw [mem_removable] at hnot
    tauto
  · rw [prune_of_removable_eq_nil h.settled config hnil, settled_settled]
  · rw [nodeCount_congr h.contains_settled]
    exact p.nodeCount hg

def iconList : Graph where
  slots := #[
    some ⟨"ul_1", "ul", "ul", 0, [], none, true, .empty, none⟩,
    some ⟨"li_1", "li", "li", 1, [], none, false, .empty, some 0⟩,
    some ⟨"a_1", "a", "a", 2, [], some { text := "t" }, false, .empty, some 1⟩,
    some ⟨"span_1", "span", "span", 3, [], none, false, .empty, some 1⟩]
  free := []
  edges := [(0, 1), (1, 2), (1, 3)]

/-- The item is a bridge only once the empty node is gone, and goes in a pass of its own. -/
theorem prune_fixed_point_iconList :
    iconList.Simple ∧ ∃ h r, iconList.prune {} = .ok (h, r) ∧
      r = { emptyLeaves := 1, bridges := 1, removed := 2, roots := 1, passes := 2 } ∧
      h.prune {} = .ok (h, { roots := 1 }) := by
  have hs : iconList.Simple := ⟨by decide, by decide⟩
  refine ⟨hs, ?_⟩
  obtain ⟨h, r, hok, _, _, hagain, _⟩ := prune_fixed_point iconList hs {}
  have hrun : (iconList.prune {}).map (·.2) =
      .ok { emptyLeaves := 1, bridges := 1, removed := 2, roots := 1, passes := 2 } := by decide +kernel
  simp only [hok, Except.map, Except.ok.injEq] at hrun
  exact ⟨h, r, hok, hrun, by rw [hagain, hrun]⟩

end Graph

end PageGraph
