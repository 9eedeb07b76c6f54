import PageGraph.Proofs.Graph.Degree
import PageGraph.Proofs.Pruning.Passes

namespace PageGraph.Graph

theorem Walk.exists_edge_to {g : Graph} {P : Slot → Prop} {s t : Slot} (w : g.Walk P s t) :
    ∃ r, g.Edge r t := by
  induction w with
  | single h => exact ⟨_, h⟩
  | cons h ht w ih => exact ih

theorem Walk.exists_edge_from {g : Graph} {P : Slot → Prop} {s t : Slot} (w : g.Walk P s t) :
    ∃ r, g.Edge s r := by
  cases w with
  | single h => exact ⟨_, h⟩
  | cons h ht w => exact ⟨_, h⟩

def Light (g : Graph) (s : Slot) : Prop :=
  g.outDegree s = 0 ∨ g.inDegree s = g.outDegree s

theorem light_removable (g : Graph) (config : PruneConfig) :
    ∀ s ∈ (g.removable config).map (·.1), g.Light s := by
  intro s hs
  obtain ⟨e, he, rfl⟩ := List.mem_map.mp hs
  exact ((mem_removable g config e.1 e.2).mp he).2.2.imp_left And.right

/-- If all that goes is empty leaves and bridges, something that stays is left above a node. -/
theorem Torso.exists_parent {g h : Graph} (hg : g.Simple) (ht : Torso g h)
    (hgone : ∀ s, g.contains s = true → h.contains s = false → g.Light s)
    {q s : Slot} (hs : h.contains s = true) (he : g.Edge q s) : ∃ p, h.Edge p s := by
  classical
  by_contra hno
  -- The nodes that go and lead to `s` through nothing else. No edge enters them from outside, as
  -- it would come from a node that goes and leads to `s` too, or leave a parent of `s`.
  let A := g.live.filter fun a =>
    h.contains a = false ∧ g.Walk (fun r => h.contains r = false) a s
  have hA (a : Slot) : a ∈ A ↔
      h.contains a = false ∧ g.Walk (fun r => h.contains r = false) a s := by
    simp only [A, Finset.mem_filter, mem_live, and_iff_right_iff_imp]
    rintro ⟨_, w⟩
    exact (w.live hg).1
  have hout (p : Slot) (w : g.Walk (fun r => h.contains r = false) p s) : p ∈ A := by
    refine (hA p).mpr ⟨?_, w⟩
    by_contra hp
    rw [Bool.not_eq_false] at hp
    exact hno ⟨p, (ht.edge p s).mpr ⟨hp, hs, w⟩⟩
  have henter : ∀ p a, g.Edge p a → a ∈ A → p ∈ A := by
    intro p a hpa ha
    obtain ⟨hgo, w⟩ := (hA a).mp ha
    exact hout p (.cons hpa hgo w)
  have hbal : ∀ a ∈ A, g.inDegree a = g.outDegree a := by
    intro a ha
    obtain ⟨hgo, w⟩ := (hA a).mp ha
    obtain ⟨r, hr⟩ := w.exists_edge_from
    rcases hgone a (w.live hg).1 hgo with h0 | heq
    · exact absurd hr ((outDegree_eq_zero_iff g a).mp h0 r)
    · exact heq
  have hsA := hg.closed_of_balanced A henter hbal q s he (hout q (.single he))
  rw [((hA s).mp hsA).1] at hs
  contradiction

theorem Dissolves.gone {g h : Graph} {ss : List Slot} (d : Dissolves g ss h) (hg : g.Simple)
    (hss : ∀ s ∈ ss, g.Light s) (s : Slot) (hs : g.contains s = true)
    (hgo : h.contains s = false) : g.Light s := by
  have hm : s ∈ ss := by
    by_contra hm
    rw [(d.contains_iff hg s).mpr ⟨hm, hs⟩] at hgo
    contradiction
  exact hss s hm

theorem Dissolves.inDegree_eq_zero_iff {g h : Graph} {ss : List Slot} (d : Dissolves g ss h)
    (hg : g.Simple) (hss : ∀ s ∈ ss, g.Light s) {s : Slot} (hs : h.contains s = true) :
    h.inDegree s = 0 ↔ g.inDegree s = 0 := by
  rw [Graph.inDegree_eq_zero_iff, Graph.inDegree_eq_zero_iff]
  constructor
  · intro hno q hq
    obtain ⟨p, hp⟩ := (d.torso hg).exists_parent hg (d.gone hg hss) hs hq
    exact hno p hp
  · intro hno p hp
    obtain ⟨q, hq⟩ := (((d.torso hg).edge p s).mp hp).2.2.exists_edge_to
    exact hno q hq

theorem Passes.inDegree_eq_zero_iff {config : PruneConfig} {g h : Graph} {r r' : PruneReport}
    (p : Passes config g r h r') (hg : g.Simple) {s : Slot} (hs : h.contains s = true) :
    h.inDegree s = 0 ↔ g.inDegree s = 0 := by
  induction p with
  | done r hr => rfl
  | pass hne d p ih =>
    have hg' := d.simple hg
    rw [ih hg' hs,
      d.inDegree_eq_zero_iff hg (light_removable _ config) ((p.torso hg').contains hs)]

theorem Passes.leaf {config : PruneConfig} {g h : Graph} {r r' : PruneReport}
    (p : Passes config g r h r') (hg : g.Simple) {s : Slot} {n : Node} {c : Payload}
    (hn : g.node? s = some n) (hc : n.payload = some c) (hout : g.outDegree s = 0)
    (hin : g.inDegree s ≠ 0) : ∃ m, h.node? s = some m ∧ m.payload = some c := by
  induction p generalizing n with
  | done r hr => exact ⟨n, hn, hc⟩
  | @pass g g' h r r' hne d p ih =>
    have hs : s ∉ (g.removable config).map (·.1) := by
      rw [mem_map_removable config hn, hc, hout]
      rintro ⟨_, ⟨hnone, _⟩ | hzero⟩
      · contradiction
      · exact hin hzero
    obtain ⟨m, hm, hfixed⟩ := d.stays hg hn hs
    obtain ⟨_, _, _, _, hpayload, _⟩ := (Node.fixed_eq_iff m n).mp hfixed
    refine ih (d.simple hg) hm (hpayload.trans hc) ?_ ?_
    · rw [outDegree_eq_zero_iff] at hout ⊢
      intro t ht
      obtain ⟨q, hq⟩ := (((d.torso hg).edge s t).mp ht).2.2.exists_edge_from
      exact hout q hq
    · have hs' := (contains_iff g' s).mpr ⟨m, hm⟩
      exact mt (d.inDegree_eq_zero_iff hg (light_removable g config) hs').mp hin

def RootsOnTop (g : Graph) : Prop :=
  ∀ s n, g.node? s = some n → n.isRoot = true → g.inDegree s = 0

theorem isRoot_dissolved {g : Graph} (hg : g.Simple) {s : Slot} {gone : Node}
    (hgone : gone.isRoot = true → g.outDegree s = 0) {t : Slot} {m : Node}
    (hm : (g.dissolved s gone).node? t = some m) (hroot : m.isRoot = true) :
    ∃ n, g.node? t = some n ∧ n.isRoot = true := by
  rw [node?_dissolved hg] at hm
  split at hm
  · contradiction
  · split at hm
    · next hc =>
      obtain ⟨n, hn, rfl⟩ := Option.map_eq_some_iff.mp hm
      rcases (Bool.or_eq_true _ _).mp hroot with h | h
      · exact ⟨n, hn, h⟩
      · exact absurd ((mem_children g s t).mp hc) ((outDegree_eq_zero_iff g s).mp (hgone h) t)
    · exact ⟨m, hm, hroot⟩

theorem Dissolves.rootsOnTop {g h : Graph} {ss : List Slot} (d : Dissolves g ss h)
    (hg : g.Simple) (htop : g.RootsOnTop)
    (hss : ∀ s ∈ ss, ∀ n, g.node? s = some n → n.isRoot = true → g.outDegree s = 0) :
    h.RootsOnTop := by
  -- Flagged nodes that go have no children to hand the flag on to.
  induction d with
  | nil g => exact htop
  | @cons g h s ss gone hs d ih =>
    have hgone := hss s List.mem_cons_self gone hs
    have hgs := (Graph.contains_iff g s).mpr ⟨gone, hs⟩
    refine ih (hg.dissolved s gone) ?_ ?_
    · intro t m hm hroot
      obtain ⟨n, hn, hflag⟩ := isRoot_dissolved hg hgone hm hroot
      have hno := (Graph.inDegree_eq_zero_iff g t).mp (htop t n hn hflag)
      refine (Graph.inDegree_eq_zero_iff _ t).mpr fun q hq => ?_
      rcases ((edge_dissolved hg s gone hgs q t).mp hq).1 with he | ⟨_, he⟩
      · exact hno q he
      · exact hno s he
    · intro t ht m hm hroot
      obtain ⟨n, hn, hflag⟩ := isRoot_dissolved hg hgone hm hroot
      have hno := (outDegree_eq_zero_iff g t).mp (hss t (List.mem_cons_of_mem s ht) n hn hflag)
      refine (outDegree_eq_zero_iff _ t).mpr fun q hq => ?_
      rcases ((edge_dissolved hg s gone hgs t q).mp hq).1 with he | ⟨he, _⟩
      · exact hno q he
      · exact hno s he

theorem Passes.rootsOnTop {config : PruneConfig} {g h : Graph} {r r' : PruneReport}
    (p : Passes config g r h r') (hg : g.Simple) (htop : g.RootsOnTop) : h.RootsOnTop := by
  induction p with
  | done r hr => exact htop
  | @pass g g' h r r' hne d p ih =>
    refine ih (d.simple hg) (d.rootsOnTop hg htop ?_)
    intro s hs n hn hroot
    have hin := htop s n hn hroot
    rcases ((mem_map_removable config hn).mp hs).2 with ⟨_, h0⟩ | heq
    · exact h0
    · exact heq.symm.trans hin

theorem isRoot_settled_iff {g : Graph} (htop : g.RootsOnTop) {s : Slot} {m : Node}
    (hm : g.settled.node? s = some m) : m.isRoot = true ↔ g.settled.inDegree s = 0 := by
  rw [node?_settled] at hm
  obtain ⟨n, hn, rfl⟩ := Option.map_eq_some_iff.mp hm
  rw [Bool.or_eq_true, decide_eq_true_eq]
  constructor
  · rintro (hroot | h0)
    · exact htop s n hn hroot
    · exact h0
  · exact Or.inr

theorem prune_no_orphans (g : Graph) (hg : g.Simple) (config : PruneConfig) :
    ∃ h r, g.prune config = .ok (h, r) ∧
      (∀ s, h.contains s = true → (h.inDegree s = 0 ↔ g.inDegree s = 0)) ∧
      (∀ s n c, g.node? s = some n → n.payload = some c → g.outDegree s = 0 → 0 < g.inDegree s →
        ∃ m, h.node? s = some m ∧ m.payload = some c) ∧
      ((∀ s n, g.node? s = some n → n.isRoot = true → g.inDegree s = 0) →
        (∀ s m, h.node? s = some m → (m.isRoot = true ↔ h.inDegree s = 0)) ∧
          r.roots = (h.nodes.filter fun e => h.inDegree e.1 = 0).length) := by
  obtain ⟨h, r, hok, p⟩ := prune_ok hg config
  refine ⟨h.settled, _, hok, ?_, ?_, ?_⟩
  · intro s hs
    rw [contains_settled] at hs
    exact p.inDegree_eq_zero_iff hg hs
  · intro s n c hn hc hout hin
    obtain ⟨m, hm, hmc⟩ := p.leaf hg hn hc hout hin.ne'
    rw [node?_settled, hm]
    exact ⟨_, rfl, hmc⟩
  · intro htop
    have hroot (s : Slot) (m : Node) (hm : h.settled.node? s = some m) :=
      isRoot_settled_iff (p.rootsOnTop hg htop) hm
    refine ⟨hroot, ?_⟩
    rw [roots, slotsWhere, List.length_map]
    refine congrArg List.length (List.filter_congr fun e he => ?_)
    rw [Bool.eq_iff_iff, decide_eq_true_eq]
    exact hroot e.1 e.2 ((mem_nodes _ e.1 e.2).mp he)

def roundabout : Graph where
  slots := #[
    some ⟨"a_1", "a", "a", 0, [], none, true, .empty, none⟩,
    some ⟨"div_1", "div", "div", 1, ["x"], none, false, .empty, some 0⟩,
    some ⟨"div_2", "div", "div", 2, ["y"], none, false, .empty, some 1⟩,
    some ⟨"p_1", "p", "p", 3, [], some { text := "t" }, false, .empty, some 1⟩]
  free := []
  edges := [(0, 1), (1, 2), (2, 1), (1, 3)]

theorem prune_no_orphans_roundabout :
    roundabout.Simple ∧ ∃ h r, roundabout.prune {} = .ok (h, r) ∧
      (∃ m, h.node? 3 = some m ∧ m.payload = some { text := "t" }) ∧ h.inDegree 3 ≠ 0 ∧
      (∀ s m, h.node? s = some m → (m.isRoot = true ↔ h.inDegree s = 0)) ∧ r.roots = 1 := by
  have hs : roundabout.Simple := ⟨by decide, by decide⟩
  have htop : ∀ s n, roundabout.node? s = some n → n.isRoot = true → roundabout.inDegree s = 0 := by
    intro s n hn
    have hall : ∀ s < 4, ∀ n ∈ roundabout.node? s,
        n.isRoot = true → roundabout.inDegree s = 0 := by decide
    exact hall s (lt_size_of_node? roundabout s n hn) n hn
  refine ⟨hs, ?_⟩
  obtain ⟨h, r, hok, hin, hleaf, hroots⟩ := prune_no_orphans roundabout hs {}
  obtain ⟨m, hm, hc⟩ := hleaf 3 _ _ rfl rfl (by decide) (by decide)
  have hrun : (roundabout.prune {}).map (·.2.roots) = .ok 1 := by decide +kernel
  simp only [hok, Except.map, Except.ok.injEq] at hrun
  refine ⟨h, r, hok, ⟨m, hm, hc⟩, ?_, (hroots htop).1, hrun⟩
  exact mt (hin 3 ((contains_iff h 3).mpr ⟨m, hm⟩)).mp (by decide)

end PageGraph.Graph
