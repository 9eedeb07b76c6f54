import PageGraph.Proofs.Graph.Forest
import PageGraph.Proofs.Pruning.FixedPoint
import PageGraph.Proofs.Pruning.Orphans

namespace PageGraph.Graph

theorem Forest.dissolved {g : Graph} (hg : g.Forest) (s : Slot) (gone : Node)
    (hs : g.node? s = some gone) : (g.dissolved s gone).Forest := by
  have hgs := (contains_iff g s).mpr ⟨gone, hs⟩
  have hedge := edge_dissolved hg.simple s gone hgs
  constructor
  · exact hg.simple.dissolved s gone
  · intro p q t hp hq
    obtain ⟨hp, hps, _⟩ := (hedge p t).mp hp
    obtain ⟨hq, hqs, _⟩ := (hedge q t).mp hq
    rcases hp with hp | ⟨hp, hst⟩
    · rcases hq with hq | ⟨hq, hst⟩
      · exact hg.unique p q t hp hq
      · exact absurd (hg.unique p s t hp hst) hps
    · rcases hq with hq | ⟨hq, _⟩
      · exact absurd (hg.unique q s t hq hst) hqs
      · exact hg.unique p q s hp hq
  · intro t ht
    have hlive : (g.dissolved s gone).contains t = true :=
      (((walk_true_iff _ t t).mpr ht).live (hg.simple.dissolved s gone)).1
    exact hg.acyclic t (((torso_dissolved hg.simple s gone hs).reaches_iff hlive hlive).mp ht)

theorem Dissolves.forest {g h : Graph} {ss : List Slot} (d : Dissolves g ss h) (hg : g.Forest) :
    h.Forest := by
  induction d with
  | nil g => exact hg
  | cons gone hs d ih => exact ih (hg.dissolved _ gone hs)

theorem Passes.forest {config : PruneConfig} {g h : Graph} {r r' : PruneReport}
    (p : Passes config g r h r') (hg : g.Forest) : h.Forest := by
  induction p with
  | done r hr => exact hg
  | pass hne d p ih => exact ih (d.forest hg)

theorem parent_settled {g : Graph} {s : Slot} {m : Node} (hm : g.settled.node? s = some m) :
    m.parent = (g.settled.parents s).head? := by
  rw [node?_settled] at hm
  obtain ⟨n, _, rfl⟩ := Option.map_eq_some_iff.mp hm
  rfl

theorem Forest.settled {g : Graph} (hg : g.Forest) : g.settled.Forest :=
  ⟨hg.simple.settled, hg.unique, hg.acyclic⟩

theorem Forest.rooted_settled {g : Graph} (hg : g.Forest) (htop : g.RootsOnTop) :
    g.settled.Rooted :=
  ⟨hg.settled, fun _ _ => parent_settled, fun _ _ hn => isRoot_settled_iff htop hn⟩

theorem Rooted.rootsOnTop {g : Graph} (hg : g.Rooted) : g.RootsOnTop := by
  intro s n hn hroot
  exact (hg.isRoot s n hn).mp hroot

theorem Rooted.prune {g h : Graph} {config : PruneConfig} {r : PruneReport} (hg : g.Rooted)
    (hok : g.prune config = .ok (h, r)) :
    h.Rooted ∧ r.roots = h.roots.length ∧ h.nodeCount + r.removed = g.nodeCount := by
  obtain ⟨pruned, report, hrun, p⟩ := prune_ok hg.simple config
  rw [hrun, Except.ok.injEq, Prod.mk.injEq] at hok
  obtain ⟨rfl, rfl⟩ := hok
  refine ⟨(p.forest hg.toForest).rooted_settled (p.rootsOnTop hg.simple hg.rootsOnTop), rfl, ?_⟩
  rw [nodeCount_congr pruned.contains_settled]
  exact p.nodeCount hg.simple

theorem Forest.threaded_prune {g h : Graph} {config : PruneConfig} {r : PruneReport}
    (hg : g.Forest) (hok : g.prune config = .ok (h, r)) : h.Threaded := by
  obtain ⟨pruned, report, hrun, p⟩ := prune_ok hg.simple config
  rw [hrun, Except.ok.injEq, Prod.mk.injEq] at hok
  obtain ⟨rfl, rfl⟩ := hok
  exact (p.forest hg).settled.threaded fun _ _ => parent_settled

end PageGraph.Graph
