import PageGraph.Proofs.Graph.Indexed

namespace PageGraph

open NumberedEdge

namespace IndexedGraph

structure Sound (t : IndexedGraph) : Prop where
  index : ∀ id s, t.slotOf? id = some s ↔ ∃ n, t.node? s = some n ∧ n.id = id
  ids : ∀ s u m n, t.node? s = some m → t.node? u = some n → m.id = n.id → s = u
  lookup : ∀ id n, t.lookup id = .ok n ↔ ∃ s, t.node? s = some n ∧ n.id = id
  unknown : ∀ id, (∀ s n, t.node? s = some n → n.id ≠ id) → t.lookup id = .error (.unknownNode id)
  nodup_free : t.free.Nodup
  mem_free : ∀ s, s ∈ t.free ↔ s < t.slots.size ∧ t.node? s = none
  nodup_ends : (t.edges.map ends).Nodup
  live : ∀ e ∈ t.edges, (t.node? e.source).isSome = true ∧ (t.node? e.target).isSome = true
  nodup_numbers : (t.edges.map (·.number)).Nodup
  below : ∀ e ∈ t.edges, e.number < t.next
  children : ∀ s, ∃ es : List NumberedEdge, t.children s = es.map (·.target) ∧
    es.Pairwise (fun d e => d.number < e.number) ∧ ∀ e, e ∈ es ↔ e ∈ t.edges ∧ e.source = s
  parents : ∀ s, ∃ es : List NumberedEdge, t.parents s = es.map (·.source) ∧
    es.Pairwise (fun d e => d.number < e.number) ∧ ∀ e, e ∈ es ↔ e ∈ t.edges ∧ e.target = s
  nodup_children : ∀ s, (t.children s).Nodup
  nodup_parents : ∀ s, (t.parents s).Nodup
  converse : ∀ s u, u ∈ t.children s ↔ s ∈ t.parents u
  outDegree : ∀ s, t.outDegree s = (t.children s).length
  inDegree : ∀ s, t.inDegree s = (t.parents s).length

structure ReadsAs (t : IndexedGraph) (g : Graph) : Prop where
  plain : t.plain = g
  node : ∀ s, t.node? s = g.node? s
  slotOf : ∀ id, t.slotOf? id = g.slotOf? id
  lookup : ∀ id, t.lookup id = g.lookup id
  children : ∀ s, t.children s = g.children s
  parents : ∀ s, t.parents s = g.parents s
  outDegree : ∀ s, t.outDegree s = g.outDegree s
  inDegree : ∀ s, t.inDegree s = g.inDegree s

structure Steady (t : IndexedGraph) : Prop where
  rejects : ∀ n, (t.slotOf? n.id).isSome = true → t.addNode n = (t, .error (.duplicateNode n.id))
  accepts : ∀ n, t.slotOf? n.id = none → ∃ u s, t.addNode n = (u, .ok s) ∧ t.node? s = none ∧
    u.edges = t.edges ∧ u.next = t.next ∧ ∀ q, u.node? q = if q = s then some n else t.node? q
  repeats : ∀ e ∈ t.edges, t.addEdge e.source e.target = (t, false)
  joins : ∀ p c, (∀ e ∈ t.edges, e.ends ≠ (p, c)) → ∃ u, t.addEdge p c = (u, true) ∧
    u.slots = t.slots ∧
    (∀ s, u.children s = if s = p then t.children p ++ [c] else t.children s) ∧
    ∀ s, u.parents s = if s = c then t.parents c ++ [p] else t.parents s
  removes : ∀ s n, t.node? s = some n → ∃ u, t.removeNode s = (u, some n) ∧
    (∀ q, u.node? q = if q = s then none else t.node? q) ∧
    (∀ id, u.slotOf? id = if id = n.id then none else t.slotOf? id) ∧
    u.lookup n.id = .error (.unknownNode n.id) ∧
    u.edges = (t.edges.filter fun e => e.source ≠ s && e.target ≠ s) ∧ u.next = t.next
  passes : ∀ s, t.node? s = none → t.removeNode s = (t, none)

namespace InStep

variable {t : IndexedGraph} {g h : Graph} (ht : t.InStep g)
include ht

theorem lookup_eq_ok (id : String) (n : Node) :
    t.lookup id = .ok n ↔ ∃ s, t.node? s = some n ∧ n.id = id := by
  have hindex := ht.index id
  have hfound : t.lookup id = .ok n ↔ (t.slotOf? id).bind t.node? = some n := by
    rw [IndexedGraph.lookup]
    cases (t.slotOf? id).bind t.node? <;> simp
  rw [hfound, Option.bind_eq_some_iff]
  constructor
  · rintro ⟨s, hs, hn⟩
    obtain ⟨m, hm, hid⟩ := (hindex s).mp hs
    rw [ht.node?, hm] at hn
    cases hn
    exact ⟨s, (ht.node? s).trans hm, hid⟩
  · rintro ⟨s, hn, hid⟩
    exact ⟨s, (hindex s).mpr ⟨n, (ht.node? s).symm.trans hn, hid⟩, hn⟩

theorem lookup_eq_error {id : String} (hid : ∀ s n, t.node? s = some n → n.id ≠ id) :
    t.lookup id = .error (.unknownNode id) := by
  rw [IndexedGraph.lookup]
  cases hslot : t.slotOf? id with
  | none => rfl
  | some s =>
    obtain ⟨n, hn, heq⟩ := (ht.index id s).mp hslot
    exact absurd heq (hid s n ((ht.node? s).trans hn))

theorem nodup_ends (hg : g.Consistent) : (t.edges.map ends).Nodup := by
  rw [← ((perm_ordered t.edges).map ends).nodup_iff, ← ht.edges]
  exact hg.simple.nodup

theorem live (hg : g.Consistent) :
    ∀ e ∈ t.edges, (t.node? e.source).isSome = true ∧ (t.node? e.target).isSome = true := by
  intro e he
  rw [ht.node?, ht.node?]
  exact hg.simple.live e.ends ((ht.mem_edges e.source e.target).mpr ⟨e, he, rfl⟩)

theorem ordered_filter (keep : NumberedEdge → Bool) :
    (ordered (t.edges.filter keep)).Pairwise (fun d e => d.number < e.number) ∧
      ∀ e, e ∈ ordered (t.edges.filter keep) ↔ e ∈ t.edges ∧ keep e = true := by
  have hkept : Distinct (t.edges.filter keep) := ht.distinct.filter keep
  refine ⟨hkept.pairwise_ordered, ?_⟩
  intro e
  rw [mem_ordered, List.mem_filter]

theorem sound (hg : g.Consistent) : t.Sound where
  index id s := by
    rw [ht.node?]
    exact ht.index id s
  ids s u m n hm hn := by
    rw [ht.node?] at hm hn
    exact hg.ids s u m n hm hn
  lookup := ht.lookup_eq_ok
  unknown _ := ht.lookup_eq_error
  nodup_free := by
    have hfree : t.free = g.free := congrArg Graph.free ht.plain
    exact hfree ▸ hg.nodup_free
  mem_free s := by
    rw [ht.node?]
    have hmem := hg.mem_free s
    rwa [← ht.plain] at hmem ⊢
  nodup_ends := ht.nodup_ends hg
  live := ht.live hg
  nodup_numbers := List.pairwise_map.mpr ht.distinct
  below := ht.below
  children s := by
    refine ⟨_, rfl, (ht.ordered_filter _).1, ?_⟩
    intro e
    rw [(ht.ordered_filter _).2, decide_eq_true_eq]
  parents s := by
    refine ⟨_, rfl, (ht.ordered_filter _).1, ?_⟩
    intro e
    rw [(ht.ordered_filter _).2, decide_eq_true_eq]
  nodup_children s := ht.children s ▸ hg.simple.nodup_children s
  nodup_parents s := ht.parents s ▸ hg.simple.nodup_parents s
  converse s u := by
    rw [ht.children, ht.parents]
    exact g.mem_children_iff_mem_parents s u
  outDegree s := (t.length_children s).symm
  inDegree s := (t.length_parents s).symm

theorem readsAs (hg : g.Consistent) : t.ReadsAs g where
  plain := ht.plain
  node := ht.node?
  slotOf := ht.slotOf? hg
  lookup := ht.lookup hg
  children := ht.children
  parents := ht.parents
  outDegree s := by rw [← t.length_children, ht.children, Graph.outDegree]
  inDegree s := by rw [← t.length_parents, ht.parents, Graph.inDegree]

theorem accepts (hg : g.Consistent) {n : Node} (hn : t.slotOf? n.id = none) :
    ∃ u s, t.addNode n = (u, .ok s) ∧ t.node? s = none ∧ u.edges = t.edges ∧ u.next = t.next ∧
      ∀ q, u.node? q = if q = s then some n else t.node? q := by
  obtain ⟨h, s, hadd⟩ := Graph.exists_addNode ((ht.slotOf? hg n.id).symm.trans hn)
  obtain ⟨u, hu, hstep⟩ := ht.addNode hg hadd
  obtain ⟨_, hvacant, hnode, _⟩ := hg.gains hadd
  have hkept := t.edges_addNode n
  rw [hu] at hkept
  refine ⟨u, s, hu, (ht.node? s).trans hvacant, hkept.1, hkept.2, ?_⟩
  intro q
  rw [hstep.node?, hnode, ht.node?]

theorem joins {p c : Slot} (hnew : ∀ e ∈ t.edges, e.ends ≠ (p, c)) :
    ∃ u, t.addEdge p c = (u, true) ∧ u.slots = t.slots ∧
      (∀ s, u.children s = if s = p then t.children p ++ [c] else t.children s) ∧
      ∀ s, u.parents s = if s = c then t.parents c ++ [p] else t.parents s := by
  have hnone : (t.edges.any fun e => e.ends = (p, c)) = false := by
    rw [List.any_eq_false]
    intro e he hends
    exact hnew e he (of_decide_eq_true hends)
  have hedge : g.hasEdge p c = false := by
    rw [← Bool.not_eq_true, Graph.hasEdge_iff, ht.mem_edges]
    rintro ⟨e, he, hends⟩
    exact hnew e he hends
  have hadd : t.addEdge p c =
      ({ t with edges := ⟨t.next, p, c⟩ :: t.edges, next := t.next + 1 }, true) := by
    rw [IndexedGraph.addEdge, hnone]
    rfl
  have hstep := ht.addEdge p c
  rw [hadd] at hstep
  refine ⟨_, hadd, rfl, ?_, ?_⟩
  · intro s
    rw [hstep.children, ht.children, ht.children, Graph.addEdge, hedge]
    by_cases hs : s = p
    · simp [Graph.children, hs]
    · simp [Graph.children, hs, Ne.symm hs]
  · intro s
    rw [hstep.parents, ht.parents, ht.parents, Graph.addEdge, hedge]
    by_cases hs : s = c
    · simp [Graph.parents, hs]
    · simp [Graph.parents, hs, Ne.symm hs]

theorem removes (hg : g.Consistent) {s : Slot} {n : Node} (hn : t.node? s = some n) :
    ∃ u, t.removeNode s = (u, some n) ∧
      (∀ q, u.node? q = if q = s then none else t.node? q) ∧
      (∀ id, u.slotOf? id = if id = n.id then none else t.slotOf? id) ∧
      u.lookup n.id = .error (.unknownNode n.id) ∧
      u.edges = (t.edges.filter fun e => e.source ≠ s && e.target ≠ s) ∧ u.next = t.next := by
  have hstep := ht.removeNode hg s
  have hnode (q : Slot) : (t.removeNode s).1.node? q = if q = s then none else t.node? q := by
    rw [hstep.node?, Graph.node?_removeNode, ht.node?]
  have hslot (id : String) : (t.removeNode s).1.slotOf? id =
      if id = n.id then none else t.slotOf? id := by
    rw [IndexedGraph.removeNode, hn, IndexedGraph.slotOf?, Std.HashMap.getElem?_erase]
    simp only [beq_iff_eq, eq_comm (a := id)]
    rfl
  have hlookup : (t.removeNode s).1.lookup n.id = .error (.unknownNode n.id) := by
    rw [IndexedGraph.lookup, hslot, if_pos rfl]
    rfl
  rw [IndexedGraph.removeNode, hn] at hnode hslot hlookup ⊢
  exact ⟨_, rfl, hnode, hslot, hlookup, rfl, rfl⟩

theorem steady (hg : g.Consistent) : t.Steady where
  rejects n hn := ht.addNode_error hg (by rwa [← ht.slotOf? hg])
  accepts _ := ht.accepts hg
  repeats e he := ht.addEdge_of_mem ((ht.mem_edges e.source e.target).mpr ⟨e, he, rfl⟩)
  joins _ _ := ht.joins
  removes _ _ := ht.removes hg
  passes s hs := by rw [IndexedGraph.removeNode, hs]

end InStep

end IndexedGraph

end PageGraph
