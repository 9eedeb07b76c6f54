import Mathlib.Data.List.ProdSigma
import PageGraph.Proofs.Graph.Torso

namespace PageGraph

def Node.inheriting (n gone : Node) : Node :=
  { n with classes := gone.classes ++ n.classes, isRoot := n.isRoot || gone.isRoot }

namespace Graph

def addEdges (g : Graph) (es : List (Slot × Slot)) : Graph :=
  es.foldl (fun g e => g.addEdge e.1 e.2) g

theorem joinAll_eq_addEdges (g : Graph) (ps cs : List Slot) :
    g.joinAll ps cs = g.addEdges (ps.product cs) := by
  simp only [joinAll, addEdges, List.product, List.foldl_flatMap, List.foldl_map]

theorem node?_addEdges (g : Graph) (es : List (Slot × Slot)) (s : Slot) :
    (g.addEdges es).node? s = g.node? s := by
  unfold addEdges
  induction es generalizing g with
  | nil => rfl
  | cons e es ih => rw [List.foldl_cons, ih, node?_addEdge]

theorem mem_edges_addEdges (g : Graph) (es : List (Slot × Slot)) (e : Slot × Slot) :
    e ∈ (g.addEdges es).edges ↔ e ∈ g.edges ∨ e ∈ es := by
  unfold addEdges
  induction es generalizing g with
  | nil => simp
  | cons d es ih => rw [List.foldl_cons, ih, mem_edges_addEdge, List.mem_cons, or_assoc]

theorem Simple.addEdges {g : Graph} (hg : g.Simple) (es : List (Slot × Slot))
    (he : ∀ e ∈ es, g.contains e.1 = true ∧ g.contains e.2 = true) : (g.addEdges es).Simple := by
  unfold Graph.addEdges
  induction es generalizing g with
  | nil => exact hg
  | cons d es ih =>
    obtain ⟨h1, h2⟩ := he d List.mem_cons_self
    apply ih (hg.addEdge d.1 d.2 h1 h2)
    intro e hm
    simpa only [contains, node?_addEdge] using he e (List.mem_cons_of_mem d hm)

def inheritAll (g : Graph) (gone : Node) (cs : List Slot) : Graph :=
  cs.foldl (fun g c => g.modify c (·.inheriting gone)) g

theorem edges_inheritAll (g : Graph) (gone : Node) (cs : List Slot) :
    (g.inheritAll gone cs).edges = g.edges := by
  unfold inheritAll
  induction cs generalizing g with
  | nil => rfl
  | cons c cs ih => rw [List.foldl_cons, ih, modify]

theorem node?_inheritAll (g : Graph) (gone : Node) (cs : List Slot) (hcs : cs.Nodup) (s : Slot) :
    (g.inheritAll gone cs).node? s =
      if s ∈ cs then (g.node? s).map (·.inheriting gone) else g.node? s := by
  unfold inheritAll
  induction cs generalizing g with
  | nil => simp
  | cons c cs ih =>
    obtain ⟨hc, hcs⟩ := List.nodup_cons.mp hcs
    rw [List.foldl_cons, ih _ hcs, node?_modify]
    by_cases hs : s = c
    · simp [hs, hc]
    · simp [hs]

theorem foldlM_inherit (g : Graph) (gone : Node) (id : String) (cs : List Slot)
    (hcs : ∀ c ∈ cs, g.contains c = true) :
    cs.foldlM (fun g c => g.inherit gone id c) g = .ok (g.inheritAll gone cs) := by
  unfold inheritAll
  induction cs generalizing g with
  | nil => rfl
  | cons c cs ih =>
    rw [List.foldlM_cons, inherit, if_pos (hcs c List.mem_cons_self)]
    apply ih
    intro d hd
    rw [contains_modify]
    exact hcs d (List.mem_cons_of_mem c hd)

theorem Simple.contains_children {g : Graph} (hg : g.Simple) (s : Slot) :
    ∀ c ∈ g.children s, g.contains c = true := by
  intro c hc
  exact hg.contains_right ((mem_children g s c).mp hc)

theorem Simple.contains_parents {g : Graph} (hg : g.Simple) (s : Slot) :
    ∀ p ∈ g.parents s, g.contains p = true := by
  intro p hp
  exact hg.contains_left ((mem_parents g s p).mp hp)

def bypassed (g : Graph) (s : Slot) (gone : Node) : Graph :=
  (g.joinAll (g.parents s) (g.children s)).inheritAll gone (g.children s)

theorem edge_bypassed (g : Graph) (s : Slot) (gone : Node) (t u : Slot) :
    (g.bypassed s gone).Edge t u ↔ g.Edge t u ∨ g.Edge t s ∧ g.Edge s u := by
  rw [Edge, bypassed, edges_inheritAll, joinAll_eq_addEdges, mem_edges_addEdges,
    List.pair_mem_product, mem_parents, mem_children]
  rfl

theorem node?_bypassed {g : Graph} (hg : g.Simple) (s : Slot) (gone : Node) (t : Slot) :
    (g.bypassed s gone).node? t =
      if t ∈ g.children s then (g.node? t).map (·.inheriting gone) else g.node? t := by
  rw [bypassed, node?_inheritAll _ _ _ (hg.nodup_children s), joinAll_eq_addEdges, node?_addEdges]

theorem contains_bypassed {g : Graph} (hg : g.Simple) (s : Slot) (gone : Node) (t : Slot) :
    (g.bypassed s gone).contains t = g.contains t := by
  rw [contains, node?_bypassed hg, contains]
  split
  · rw [Option.isSome_map]
  · rfl

theorem Simple.bypassed {g : Graph} (hg : g.Simple) (s : Slot) (gone : Node) :
    (g.bypassed s gone).Simple := by
  have hj : (g.joinAll (g.parents s) (g.children s)).Simple := by
    rw [joinAll_eq_addEdges]
    apply hg.addEdges
    intro e he
    obtain ⟨h1, h2⟩ := List.mem_product.mp he
    exact ⟨hg.contains_parents s e.1 h1, hg.contains_children s e.2 h2⟩
  apply hj.congr (edges_inheritAll _ _ _)
  intro t
  change (g.bypassed s gone).contains t = _
  rw [contains_bypassed hg, contains, contains, joinAll_eq_addEdges, node?_addEdges]

def dissolved (g : Graph) (s : Slot) (gone : Node) : Graph :=
  (g.bypassed s gone).removeNode s

theorem dissolve_eq {g : Graph} (hg : g.Simple) (s : Slot) (gone : Node) (id : String)
    (hs : g.node? s = some gone) : g.dissolve s id = .ok (g.dissolved s gone) := by
  have hin := foldlM_inherit (g.joinAll (g.parents s) (g.children s)) gone id (g.children s) (by
    intro c hc
    rw [contains, joinAll_eq_addEdges, node?_addEdges]
    exact hg.contains_children s c hc)
  simp only [dissolve, hs, hin]
  rfl

theorem node?_dissolved {g : Graph} (hg : g.Simple) (s : Slot) (gone : Node) (t : Slot) :
    (g.dissolved s gone).node? t =
      if t = s then none
      else if t ∈ g.children s then (g.node? t).map (·.inheriting gone)
      else g.node? t := by
  rw [dissolved, node?_removeNode, node?_bypassed hg]

theorem contains_dissolved {g : Graph} (hg : g.Simple) (s : Slot) (gone : Node) (t : Slot) :
    (g.dissolved s gone).contains t = true ↔ t ≠ s ∧ g.contains t = true := by
  rw [dissolved, contains, node?_removeNode, ← contains_bypassed hg s gone t]
  by_cases ht : t = s <;> simp [ht, contains]

theorem edge_dissolved {g : Graph} (hg : g.Simple) (s : Slot) (gone : Node)
    (hs : g.contains s = true) (t u : Slot) :
    (g.dissolved s gone).Edge t u ↔
      (g.Edge t u ∨ g.Edge t s ∧ g.Edge s u) ∧ t ≠ s ∧ u ≠ s := by
  rw [← contains_bypassed hg s gone] at hs
  rw [Edge, dissolved, mem_edges_removeNode _ _ hs, ← edge_bypassed, Edge]

theorem Simple.dissolved {g : Graph} (hg : g.Simple) (s : Slot) (gone : Node) :
    (g.dissolved s gone).Simple :=
  (hg.bypassed s gone).removeNode s

theorem torso_dissolved {g : Graph} (hg : g.Simple) (s : Slot) (gone : Node)
    (hs : g.node? s = some gone) : Torso g (g.dissolved s gone) := by
  have hgs : g.contains s = true := (contains_iff g s).mpr ⟨gone, hs⟩
  constructor
  · intro t m hm
    rw [node?_dissolved hg] at hm
    split at hm
    · contradiction
    · split at hm
      · obtain ⟨n, hn, rfl⟩ := Option.map_eq_some_iff.mp hm
        exact ⟨n, hn, rfl⟩
      · exact ⟨m, hm, rfl⟩
  · intro t u
    rw [edge_dissolved hg s gone hgs, ← walk_eq_iff, contains_dissolved hg, contains_dissolved hg]
    have hr (q r : Slot) (he : g.Edge q r) : (g.dissolved s gone).contains r = false ↔ r = s := by
      rw [← Bool.not_eq_true, contains_dissolved hg]
      simp [hg.contains_right he]
    constructor
    · rintro ⟨w, ht, hu⟩
      have hlive := w.live hg
      exact ⟨⟨ht, hlive.1⟩, ⟨hu, hlive.2⟩, w.mono fun q r he => (hr q r he).mpr⟩
    · rintro ⟨⟨ht, _⟩, ⟨hu, _⟩, w⟩
      exact ⟨w.mono fun q r he => (hr q r he).mp, ht, hu⟩

theorem nodeCount_dissolved {g : Graph} (hg : g.Simple) (s : Slot) (gone : Node)
    (hs : g.node? s = some gone) : (g.dissolved s gone).nodeCount + 1 = g.nodeCount := by
  have hlive : (g.dissolved s gone).live = g.live.erase s := by
    ext t
    rw [mem_live, contains_dissolved hg, Finset.mem_erase, mem_live]
  rw [← card_live, ← card_live, hlive]
  exact Finset.card_erase_add_one ((mem_live g s).mpr ((contains_iff g s).mpr ⟨gone, hs⟩))

inductive Dissolves : Graph → List Slot → Graph → Prop where
  | nil (g : Graph) : Dissolves g [] g
  | cons {g h : Graph} {s : Slot} {ss : List Slot} (gone : Node) (hs : g.node? s = some gone)
      (r : Dissolves (g.dissolved s gone) ss h) : Dissolves g (s :: ss) h

namespace Dissolves

variable {g h : Graph} {ss : List Slot}

theorem simple (r : Dissolves g ss h) (hg : g.Simple) : h.Simple := by
  induction r with
  | nil g => exact hg
  | cons gone hs r ih => exact ih (hg.dissolved _ gone)

theorem torso (r : Dissolves g ss h) (hg : g.Simple) : Torso g h := by
  induction r with
  | nil g => exact .refl hg
  | cons gone hs r ih => exact (torso_dissolved hg _ gone hs).trans (ih (hg.dissolved _ gone))

theorem contains_iff (r : Dissolves g ss h) (hg : g.Simple) (t : Slot) :
    h.contains t = true ↔ t ∉ ss ∧ g.contains t = true := by
  induction r with
  | nil g => simp
  | cons gone hs r ih =>
    rw [ih (hg.dissolved _ gone), contains_dissolved hg, List.mem_cons, not_or]
    tauto

theorem nodeCount (r : Dissolves g ss h) (hg : g.Simple) :
    h.nodeCount + ss.length = g.nodeCount := by
  induction r with
  | nil g => rfl
  | cons gone hs r ih =>
    have hih := ih (hg.dissolved _ gone)
    have hone := nodeCount_dissolved hg _ gone hs
    rw [List.length_cons]
    omega

theorem stays (r : Dissolves g ss h) (hg : g.Simple) {t : Slot} {n : Node}
    (hn : g.node? t = some n) (ht : t ∉ ss) : ∃ m, h.node? t = some m ∧ m.fixed = n.fixed := by
  have hc : h.contains t = true :=
    (r.contains_iff hg t).mpr ⟨ht, (Graph.contains_iff g t).mpr ⟨n, hn⟩⟩
  obtain ⟨m, hm⟩ := (Graph.contains_iff h t).mp hc
  obtain ⟨n', hn', hfixed⟩ := (r.torso hg).node t m hm
  rw [hn, Option.some.injEq] at hn'
  exact ⟨m, hm, hn' ▸ hfixed⟩

end Dissolves

theorem dissolveAll_ok {g : Graph} (hg : g.Simple) (picked : List (Slot × Node))
    (hnd : (picked.map (·.1)).Nodup) (hp : ∀ e ∈ picked, g.contains e.1 = true) :
    ∃ h, g.dissolveAll picked = .ok h ∧ Dissolves g (picked.map (·.1)) h := by
  induction picked generalizing g with
  | nil => exact ⟨g, rfl, .nil g⟩
  | cons e picked ih =>
    obtain ⟨s, n⟩ := e
    rw [List.map_cons, List.nodup_cons] at hnd
    obtain ⟨hsp, hnd⟩ := hnd
    obtain ⟨gone, hs⟩ := (Graph.contains_iff g s).mp (hp (s, n) List.mem_cons_self)
    have hrest : ∀ d ∈ picked, (g.dissolved s gone).contains d.1 = true := by
      intro d hd
      refine (contains_dissolved hg s gone d.1).mpr ⟨?_, hp d (List.mem_cons_of_mem _ hd)⟩
      intro hds
      exact hsp (List.mem_map.mpr ⟨d, hd, hds⟩)
    obtain ⟨h, hok, r⟩ := ih (hg.dissolved s gone) hnd hrest
    refine ⟨h, ?_, .cons gone hs r⟩
    simp only [dissolveAll, List.foldlM_cons, dissolve_eq hg s gone n.id hs]
    exact hok

end Graph

end PageGraph
