import Mathlib.Data.Finset.Card
import PageGraph.Graph.Pruning

namespace PageGraph.Graph

theorem contains_iff (g : Graph) (s : Slot) : g.contains s = true ↔ ∃ n, g.node? s = some n := by
  simp [contains, Option.isSome_iff_exists]

theorem node?_eq_none_iff (g : Graph) (s : Slot) : g.node? s = none ↔ g.contains s = false := by
  simp [contains]

theorem lt_size_of_node? (g : Graph) (s : Slot) (n : Node) (h : g.node? s = some n) :
    s < g.slots.size := by
  simp only [node?, Option.join_eq_some_iff] at h
  exact (Array.getElem?_eq_some_iff.mp h).1

theorem mem_nodes (g : Graph) (s : Slot) (n : Node) : (s, n) ∈ g.nodes ↔ g.node? s = some n := by
  simp only [nodes, List.mem_filterMap, List.mem_range, Option.map_eq_some_iff, Prod.mk.injEq]
  constructor
  · rintro ⟨t, _, m, hm, rfl, rfl⟩
    exact hm
  · intro h
    exact ⟨s, lt_size_of_node? g s n h, n, h, rfl, rfl⟩

theorem slotOf?_eq_none_iff (g : Graph) (id : String) :
    g.slotOf? id = none ↔ ∀ s n, g.node? s = some n → n.id ≠ id := by
  simp [slotOf?, mem_nodes]

theorem pairwise_nodes (g : Graph) : (g.nodes.map (·.1)).Pairwise (· < ·) := by
  rw [List.pairwise_map]
  refine List.pairwise_lt_range.filterMap _ ?_
  intro s t hst e he f hf
  obtain ⟨_, _, rfl⟩ := Option.map_eq_some_iff.mp he
  obtain ⟨_, _, rfl⟩ := Option.map_eq_some_iff.mp hf
  exact hst

theorem nodup_map_fst_nodes (g : Graph) : (g.nodes.map (·.1)).Nodup :=
  g.pairwise_nodes.imp Nat.ne_of_lt

theorem toList_slots (g : Graph) : g.slots.toList = (List.range g.slots.size).map g.node? := by
  apply List.ext_getElem (by simp)
  intro s hs _
  simp only [Array.length_toList] at hs
  simp [node?, hs]

theorem ext_node? {g h : Graph} (hsize : g.slots.size = h.slots.size)
    (hnode : ∀ s, g.node? s = h.node? s) (hfree : g.free = h.free) (hedges : g.edges = h.edges) :
    g = h := by
  have hslots : g.slots = h.slots := by
    rw [← Array.toList_inj, toList_slots, toList_slots, hsize, funext hnode]
  cases g
  cases h
  simp_all only

theorem length_nodes (g : Graph) : g.nodes.length = g.nodeCount := by
  rw [nodeCount, ← Array.countP_toList, toList_slots, List.countP_map, nodes,
    List.length_filterMap_eq_countP]
  simp [Function.comp_def]

def live (g : Graph) : Finset Slot :=
  (g.nodes.map (·.1)).toFinset

theorem mem_live (g : Graph) (s : Slot) : s ∈ g.live ↔ g.contains s = true := by
  simp only [live, List.mem_toFinset, List.mem_map, Prod.exists, exists_and_right, exists_eq_right,
    mem_nodes, contains_iff]

theorem card_live (g : Graph) : g.live.card = g.nodeCount := by
  rw [live, List.toFinset_card_of_nodup g.nodup_map_fst_nodes, List.length_map, length_nodes]

theorem nodeCount_congr {g h : Graph} (hc : ∀ s, h.contains s = g.contains s) :
    h.nodeCount = g.nodeCount := by
  have hlive : h.live = g.live := by
    ext s
    rw [mem_live, mem_live, hc]
  rw [← card_live, hlive, card_live]

theorem mem_slotsWhere (g : Graph) (p : Node → Bool) (s : Slot) :
    s ∈ g.slotsWhere p ↔ ∃ n, g.node? s = some n ∧ p n = true := by
  simp [slotsWhere, mem_nodes]

theorem nodup_slotsWhere (g : Graph) (p : Node → Bool) : (g.slotsWhere p).Nodup :=
  g.nodup_map_fst_nodes.sublist (List.filter_sublist.map _)

theorem node?_modify (g : Graph) (s t : Slot) (f : Node → Node) :
    (g.modify s f).node? t = if t = s then (g.node? t).map f else g.node? t := by
  simp only [modify, node?, Array.getElem?_modify]
  split
  · next h => cases g.slots[t]? <;> simp [h]
  · next h => simp [Ne.symm h]

theorem contains_modify (g : Graph) (s t : Slot) (f : Node → Node) :
    (g.modify s f).contains t = g.contains t := by
  simp only [contains, node?_modify]
  split <;> simp

theorem node?_addEdge (g : Graph) (p c s : Slot) : (g.addEdge p c).node? s = g.node? s := by
  unfold addEdge
  split <;> rfl

theorem mem_edges_addEdge (g : Graph) (p c : Slot) (e : Slot × Slot) :
    e ∈ (g.addEdge p c).edges ↔ e ∈ g.edges ∨ e = (p, c) := by
  unfold addEdge
  split
  · next h =>
    rw [hasEdge_iff] at h
    constructor
    · exact Or.inl
    · rintro (he | rfl)
      · exact he
      · exact h
  · simp

theorem node?_removeNode (g : Graph) (s t : Slot) :
    (g.removeNode s).node? t = if t = s then none else g.node? t := by
  unfold removeNode
  split
  · simp only [node?, Array.getElem?_setIfInBounds]
    split
    · next h => split <;> simp [h]
    · next h => simp [Ne.symm h]
  · next h =>
    split
    · next ht =>
      subst ht
      rw [node?_eq_none_iff]
      simpa using h
    · rfl

theorem mem_edges_removeNode (g : Graph) (s : Slot) (hs : g.contains s = true) (e : Slot × Slot) :
    e ∈ (g.removeNode s).edges ↔ e ∈ g.edges ∧ e.1 ≠ s ∧ e.2 ≠ s := by
  simp [removeNode, hs]

structure Simple (g : Graph) : Prop where
  nodup : g.edges.Nodup
  live : ∀ e ∈ g.edges, g.contains e.1 = true ∧ g.contains e.2 = true

theorem simple_empty : empty.Simple :=
  ⟨List.nodup_nil, by simp [empty]⟩

theorem Simple.lt_size {g : Graph} (hg : g.Simple) {e : Slot × Slot} (he : e ∈ g.edges) :
    e.1 < g.slots.size ∧ e.2 < g.slots.size := by
  obtain ⟨h1, h2⟩ := hg.live e he
  obtain ⟨m, hm⟩ := (contains_iff g e.1).mp h1
  obtain ⟨n, hn⟩ := (contains_iff g e.2).mp h2
  exact ⟨lt_size_of_node? g e.1 m hm, lt_size_of_node? g e.2 n hn⟩

theorem Simple.child_lt_size {g : Graph} (hg : g.Simple) : ∀ e ∈ g.edges, e.2 < g.slots.size :=
  fun _ he => (hg.lt_size he).2

theorem Simple.nodup_children {g : Graph} (hg : g.Simple) (s : Slot) : (g.children s).Nodup := by
  refine (hg.nodup.filter _).map_on ?_
  intro e he f hf hef
  have h1 := of_decide_eq_true (List.mem_filter.mp he).2
  have h2 := of_decide_eq_true (List.mem_filter.mp hf).2
  exact Prod.ext (h1.trans h2.symm) hef

theorem Simple.nodup_parents {g : Graph} (hg : g.Simple) (s : Slot) : (g.parents s).Nodup := by
  refine (hg.nodup.filter _).map_on ?_
  intro e he f hf hef
  have h1 := of_decide_eq_true (List.mem_filter.mp he).2
  have h2 := of_decide_eq_true (List.mem_filter.mp hf).2
  exact Prod.ext hef (h1.trans h2.symm)

theorem Simple.addEdge {g : Graph} (h : g.Simple) (p c : Slot) (hp : g.contains p = true)
    (hc : g.contains c = true) : (g.addEdge p c).Simple := by
  constructor
  · unfold Graph.addEdge
    split
    · exact h.nodup
    · next he =>
      rw [hasEdge_iff] at he
      exact List.nodup_append.mpr ⟨h.nodup, List.nodup_singleton _, by
        intro a ha b hb hab
        rw [List.mem_singleton.mp hb] at hab
        exact he (hab ▸ ha)⟩
  · intro e he
    simp only [contains, node?_addEdge]
    rcases (mem_edges_addEdge g p c e).mp he with he | rfl
    · exact h.live e he
    · exact ⟨hp, hc⟩

theorem Simple.removeNode {g : Graph} (h : g.Simple) (s : Slot) : (g.removeNode s).Simple := by
  by_cases hs : g.contains s = true
  · constructor
    · simp only [Graph.removeNode, hs, if_true]
      exact h.nodup.filter _
    · intro e he
      obtain ⟨he, h1, h2⟩ := (mem_edges_removeNode g s hs e).mp he
      simp only [contains, node?_removeNode, h1, h2, if_false]
      exact h.live e he
  · rw [Graph.removeNode, if_neg hs]
    exact h

theorem Simple.congr {g h : Graph} (hg : g.Simple) (he : h.edges = g.edges)
    (hc : ∀ s, h.contains s = g.contains s) : h.Simple := by
  constructor
  · rw [he]
    exact hg.nodup
  · intro e hm
    rw [he] at hm
    rw [hc, hc]
    exact hg.live e hm

end PageGraph.Graph
