import Mathlib.Data.List.Perm.Basic
import PageGraph.Proofs.Graph.Change
import Std.Data.HashMap

/-!
Graphs with an index from ids to slots and with numbered edges. Edges lie in any order and are put
in the order of their numbers where they are read; a counter gives the next number. A graph of this
kind that is changed in step with a plain one reads like it: ids are found without a search, and
neighbours come in the order in which their edges were added.
-/

namespace PageGraph

structure NumberedEdge where
  number : Nat
  source : Slot
  target : Slot
  deriving DecidableEq, Repr

namespace NumberedEdge

def ends (e : NumberedEdge) : Slot × Slot :=
  (e.source, e.target)

def ordered (es : List NumberedEdge) : List NumberedEdge :=
  es.mergeSort fun d e => d.number ≤ e.number

def Distinct (es : List NumberedEdge) : Prop :=
  es.Pairwise fun d e => d.number ≠ e.number

theorem perm_ordered (es : List NumberedEdge) : (ordered es).Perm es :=
  List.mergeSort_perm es _

theorem mem_ordered (es : List NumberedEdge) (e : NumberedEdge) : e ∈ ordered es ↔ e ∈ es :=
  (perm_ordered es).mem_iff

theorem Distinct.perm {es ds : List NumberedEdge} (h : Distinct es) (hp : es.Perm ds) :
    Distinct ds :=
  List.Pairwise.perm h hp fun hne => hne.symm

theorem Distinct.pairwise_ordered {es : List NumberedEdge} (h : Distinct es) :
    (ordered es).Pairwise fun d e => d.number < e.number := by
  have hle : (ordered es).Pairwise fun d e => decide (d.number ≤ e.number) = true := by
    apply List.pairwise_mergeSort
    · intro a b c hab hbc
      simp only [decide_eq_true_eq] at *
      omega
    · intro a b
      simp only [Bool.or_eq_true, decide_eq_true_eq]
      omega
  refine (hle.and (h.perm (perm_ordered es).symm)).imp ?_
  rintro d e ⟨hde, hne⟩
  exact Nat.lt_of_le_of_ne (of_decide_eq_true hde) hne

theorem Distinct.ordered_eq {es ds : List NumberedEdge} (h : Distinct es) (hp : ds.Perm es)
    (hds : ds.Pairwise fun d e => d.number < e.number) : ordered es = ds := by
  apply List.Perm.eq_of_pairwise _ h.pairwise_ordered hds ((perm_ordered es).trans hp.symm)
  intro d e _ _ hde hed
  omega

theorem Distinct.ordered_filter {es : List NumberedEdge} (h : Distinct es)
    (keep : NumberedEdge → Bool) : ordered (es.filter keep) = (ordered es).filter keep := by
  have hkept : Distinct (es.filter keep) := h.filter keep
  exact hkept.ordered_eq ((perm_ordered es).filter keep) (h.pairwise_ordered.filter keep)

theorem Distinct.ordered_cons {es : List NumberedEdge} (h : Distinct es) {e : NumberedEdge}
    (he : ∀ d ∈ es, d.number < e.number) : ordered (e :: es) = ordered es ++ [e] := by
  have hcons : Distinct (e :: es) := List.pairwise_cons.mpr ⟨fun d hd => (he d hd).ne', h⟩
  apply hcons.ordered_eq
  · exact (List.perm_append_singleton e (ordered es)).trans ((perm_ordered es).cons e)
  · refine List.pairwise_append.mpr ⟨h.pairwise_ordered, List.pairwise_singleton _ e, ?_⟩
    intro d hd e' he'
    rw [List.mem_singleton.mp he']
    exact he d ((mem_ordered es d).mp hd)

end NumberedEdge

open NumberedEdge

structure IndexedGraph where
  slots : Array (Option Node)
  free : List Slot
  index : Std.HashMap String Slot
  edges : List NumberedEdge
  next : Nat

namespace IndexedGraph

def empty : IndexedGraph :=
  ⟨#[], [], {}, [], 0⟩

def node? (t : IndexedGraph) (s : Slot) : Option Node :=
  t.slots[s]?.join

def slotOf? (t : IndexedGraph) (id : String) : Option Slot :=
  t.index[id]?

def lookup (t : IndexedGraph) (id : String) : Except GraphError Node :=
  match (t.slotOf? id).bind t.node? with
  | some n => .ok n
  | none => .error (.unknownNode id)

def addNode (t : IndexedGraph) (n : Node) : IndexedGraph × Except GraphError Slot :=
  if t.index.contains n.id then (t, .error (.duplicateNode n.id))
  else match t.free with
    | s :: free =>
      ({ t with
        slots := t.slots.setIfInBounds s (some n)
        free
        index := t.index.insert n.id s }, .ok s)
    | [] =>
      ({ t with
        slots := t.slots.push (some n)
        index := t.index.insert n.id t.slots.size }, .ok t.slots.size)

def addEdge (t : IndexedGraph) (parent child : Slot) : IndexedGraph × Bool :=
  if t.edges.any fun e => e.ends = (parent, child) then (t, false)
  else ({ t with edges := ⟨t.next, parent, child⟩ :: t.edges, next := t.next + 1 }, true)

def removeNode (t : IndexedGraph) (s : Slot) : IndexedGraph × Option Node :=
  match t.node? s with
  | none => (t, none)
  | some n =>
    ({ t with
      slots := t.slots.setIfInBounds s none
      free := s :: t.free
      index := t.index.erase n.id
      edges := t.edges.filter fun e => e.source ≠ s && e.target ≠ s }, some n)

def edited (t : IndexedGraph) (f : Slot → Node → Node) : IndexedGraph :=
  { t with slots := t.slots.mapIdx fun s o => o.map (f s) }

def children (t : IndexedGraph) (s : Slot) : List Slot :=
  (ordered (t.edges.filter (·.source = s))).map (·.target)

def parents (t : IndexedGraph) (s : Slot) : List Slot :=
  (ordered (t.edges.filter (·.target = s))).map (·.source)

def outDegree (t : IndexedGraph) (s : Slot) : Nat :=
  t.edges.countP (·.source = s)

def inDegree (t : IndexedGraph) (s : Slot) : Nat :=
  t.edges.countP (·.target = s)

def apply (t : IndexedGraph) : Change → IndexedGraph
  | .add n => (t.addNode n).1
  | .join p c => (t.addEdge p c).1
  | .remove s => (t.removeNode s).1
  | .edit f => t.edited f

def ofChanges (cs : List Change) : IndexedGraph :=
  cs.foldl apply empty

def plain (t : IndexedGraph) : Graph :=
  ⟨t.slots, t.free, (ordered t.edges).map ends⟩

structure InStep (t : IndexedGraph) (g : Graph) : Prop where
  plain : t.plain = g
  index : ∀ id s, t.index[id]? = some s ↔ ∃ n, g.node? s = some n ∧ n.id = id
  distinct : Distinct t.edges
  below : ∀ e ∈ t.edges, e.number < t.next

theorem inStep_empty : empty.InStep .empty := by
  refine ⟨?_, ?_, .nil, ?_⟩
  · simp [IndexedGraph.plain, empty, ordered, Graph.empty]
  · simp [empty, Graph.empty, Graph.node?]
  · simp [empty]

namespace InStep

variable {t : IndexedGraph} {g h : Graph} (ht : t.InStep g)
include ht

theorem node? (s : Slot) : t.node? s = g.node? s := by
  rw [← ht.plain]
  rfl

theorem edges : g.edges = (ordered t.edges).map ends := by
  rw [← ht.plain]
  rfl

theorem mem_edges (p c : Slot) : (p, c) ∈ g.edges ↔ ∃ e ∈ t.edges, e.ends = (p, c) := by
  rw [ht.edges, List.mem_map]
  simp only [mem_ordered]

theorem slotOf? (hg : g.Consistent) (id : String) : t.slotOf? id = g.slotOf? id := by
  apply Option.ext
  intro s
  rw [IndexedGraph.slotOf?, ht.index, hg.slotOf?_eq_some]

theorem lookup (hg : g.Consistent) (id : String) : t.lookup id = g.lookup id := by
  have hfound : (t.slotOf? id).bind t.node? = (g.slotOf? id).bind g.node? := by
    rw [ht.slotOf? hg, funext ht.node?]
  rw [IndexedGraph.lookup, hfound]
  rfl

theorem contains_index (hg : g.Consistent) (id : String) :
    t.index.contains id = (g.slotOf? id).isSome := by
  rw [Std.HashMap.contains_eq_isSome_getElem?, ← ht.slotOf? hg, IndexedGraph.slotOf?]

theorem addNode_error (hg : g.Consistent) {n : Node} (hn : (g.slotOf? n.id).isSome = true) :
    t.addNode n = (t, .error (.duplicateNode n.id)) := by
  rw [IndexedGraph.addNode, ht.contains_index hg, if_pos hn]

theorem index_insert {n : Node} {s : Slot} (hgains : g.Gains n s h) (id : String) (u : Slot) :
    (t.index.insert n.id s)[id]? = some u ↔ ∃ m, h.node? u = some m ∧ m.id = id := by
  rw [Std.HashMap.getElem?_insert, hgains.node u]
  by_cases hid : n.id = id
  · subst hid
    simp only [beq_self_eq_true, if_true, Option.some.injEq]
    by_cases hu : u = s
    · simp [hu]
    · simp only [Ne.symm hu, hu, if_false, false_iff, not_exists, not_and]
      exact hgains.fresh u
  · simp only [beq_iff_eq, hid, if_false, ht.index]
    by_cases hu : u = s
    · simp [hu, hgains.vacant, hid]
    · simp [hu]

theorem addNode (hg : g.Consistent) {n : Node} {s : Slot} (hadd : g.addNode n = .ok (h, s)) :
    ∃ t', t.addNode n = (t', .ok s) ∧ t'.InStep h := by
  have hindex := ht.index_insert (hg.gains hadd)
  obtain ⟨hnew, hplace⟩ := Graph.addNode_eq_ok.mp hadd
  have hsize : t.slots = g.slots := congrArg Graph.slots ht.plain
  have htfree : t.free = g.free := congrArg Graph.free ht.plain
  rw [IndexedGraph.addNode, ht.contains_index hg, hnew, htfree, hsize]
  rcases hplace with ⟨free, hfree, rfl⟩ | ⟨hfree, rfl, rfl⟩
  · rw [hfree]
    refine ⟨_, rfl, ?_, hindex, ht.distinct, ht.below⟩
    rw [IndexedGraph.plain, ← ht.edges]
  · rw [hfree]
    refine ⟨_, rfl, ?_, hindex, ht.distinct, ht.below⟩
    rw [IndexedGraph.plain, ← ht.edges]

theorem addEdge_of_mem {p c : Slot} (he : (p, c) ∈ g.edges) : t.addEdge p c = (t, false) := by
  obtain ⟨e, hmem, hends⟩ := (ht.mem_edges p c).mp he
  rw [IndexedGraph.addEdge, if_pos]
  exact List.any_eq_true.mpr ⟨e, hmem, decide_eq_true hends⟩

theorem addEdge (p c : Slot) : (t.addEdge p c).1.InStep (g.addEdge p c) := by
  by_cases he : (p, c) ∈ g.edges
  · rw [ht.addEdge_of_mem he, Graph.addEdge, if_pos ((Graph.hasEdge_iff g p c).mpr he)]
    exact ht
  · have hnone : (t.edges.any fun e => e.ends = (p, c)) = false := by
      rw [List.any_eq_false]
      intro e hmem hends
      exact he ((ht.mem_edges p c).mpr ⟨e, hmem, of_decide_eq_true hends⟩)
    have hedge : g.hasEdge p c = false := by
      rw [← Bool.not_eq_true, Graph.hasEdge_iff]
      exact he
    rw [IndexedGraph.addEdge, hnone, Graph.addEdge, hedge]
    have hlast := ht.distinct.ordered_cons (e := ⟨t.next, p, c⟩) ht.below
    refine ⟨?_, ht.index, ?_, ?_⟩
    · rw [← ht.plain]
      simp only [Bool.false_eq_true, if_false, IndexedGraph.plain, hlast, List.map_append]
      rfl
    · exact List.pairwise_cons.mpr ⟨fun d hd => (ht.below d hd).ne', ht.distinct⟩
    · intro e hmem
      rcases List.mem_cons.mp hmem with rfl | hmem
      · exact Nat.lt_succ_self _
      · exact Nat.lt_succ_of_lt (ht.below e hmem)

theorem removeNode (hg : g.Consistent) (s : Slot) :
    (t.removeNode s).1.InStep (g.removeNode s) := by
  rw [IndexedGraph.removeNode, ht.node?, Graph.removeNode]
  cases hs : g.node? s with
  | none =>
    rw [(Graph.node?_eq_none_iff g s).mp hs]
    exact ht
  | some n =>
    have hcontains := (Graph.contains_iff g s).mpr ⟨n, hs⟩
    have hnode := Graph.node?_removeNode g s
    rw [Graph.removeNode, if_pos hcontains] at hnode
    rw [if_pos hcontains]
    refine ⟨?_, ?_, ht.distinct.filter _, ?_⟩
    · rw [← ht.plain, IndexedGraph.plain, ht.distinct.ordered_filter]
      simp only [IndexedGraph.plain, List.filter_map]
      rfl
    · intro id u
      rw [Std.HashMap.getElem?_erase, hnode u]
      by_cases hid : n.id = id
      · subst hid
        simp only [beq_self_eq_true, if_true, reduceCtorEq, false_iff, not_exists, not_and]
        intro m hm hsame
        split at hm
        · contradiction
        · next hu => exact hu (hg.ids u s m n hm hs hsame)
      · simp only [beq_iff_eq, hid, if_false, ht.index]
        by_cases hu : u = s
        · simp [hu, hs, hid]
        · simp [hu]
    · intro e he
      exact ht.below e (List.mem_filter.mp he).1

theorem edited {f : Slot → Node → Node} (hf : g.Allows (.edit f)) :
    (t.edited f).InStep (g.edited f) := by
  refine ⟨?_, ?_, ht.distinct, ht.below⟩
  · rw [← ht.plain]
    rfl
  · intro id s
    rw [Graph.node?_edited]
    have hold := ht.index id s
    rw [IndexedGraph.edited, hold]
    constructor
    · rintro ⟨n, hn, hid⟩
      exact ⟨f s n, by rw [hn, Option.map_some], (hf s n hn).trans hid⟩
    · rintro ⟨m, hm, hid⟩
      obtain ⟨n, hn, rfl⟩ := Option.map_eq_some_iff.mp hm
      exact ⟨n, hn, (hf s n hn).symm.trans hid⟩

theorem apply (hg : g.Consistent) {c : Change} (hc : g.Allows c) :
    (t.apply c).InStep (g.apply c) := by
  cases c with
  | add n =>
    rw [IndexedGraph.apply, Graph.apply]
    cases hslot : g.slotOf? n.id with
    | some s =>
      rw [ht.addNode_error hg (by rw [hslot]; rfl), Graph.addNode_eq_error hslot]
      exact ht
    | none =>
      obtain ⟨h, s, hadd⟩ := Graph.exists_addNode hslot
      obtain ⟨t', hadd', hstep⟩ := ht.addNode hg hadd
      rw [hadd, hadd']
      exact hstep
  | join p c => exact ht.addEdge p c
  | remove s => exact ht.removeNode hg s
  | edit f => exact ht.edited hc

theorem children (s : Slot) : t.children s = g.children s := by
  rw [IndexedGraph.children, ht.distinct.ordered_filter, Graph.children, ht.edges,
    List.filter_map, List.map_map]
  rfl

theorem parents (s : Slot) : t.parents s = g.parents s := by
  rw [IndexedGraph.parents, ht.distinct.ordered_filter, Graph.parents, ht.edges,
    List.filter_map, List.map_map]
  rfl

theorem leads {cs : List Change} (hg : g.Consistent) (r : Graph.Leads g cs h) :
    (cs.foldl IndexedGraph.apply t).InStep h := by
  induction r generalizing t with
  | nil g => exact ht
  | cons hc r ih => exact ih (ht.apply hg hc) (hg.apply hc)

end InStep

theorem inStep_ofChanges {cs : List Change} {g : Graph} (r : Graph.Leads .empty cs g) :
    (ofChanges cs).InStep g :=
  inStep_empty.leads Graph.consistent_empty r

theorem length_children (t : IndexedGraph) (s : Slot) :
    (t.children s).length = t.outDegree s := by
  rw [children, List.length_map, (perm_ordered _).length_eq, outDegree, List.countP_eq_length_filter]

theorem length_parents (t : IndexedGraph) (s : Slot) : (t.parents s).length = t.inDegree s := by
  rw [parents, List.length_map, (perm_ordered _).length_eq, inDegree, List.countP_eq_length_filter]

theorem edges_addNode (t : IndexedGraph) (n : Node) :
    (t.addNode n).1.edges = t.edges ∧ (t.addNode n).1.next = t.next := by
  unfold addNode
  split
  · exact ⟨rfl, rfl⟩
  · split <;> exact ⟨rfl, rfl⟩

end IndexedGraph

end PageGraph
