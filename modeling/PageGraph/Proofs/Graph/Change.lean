import PageGraph.Proofs.Graph.Simple

namespace PageGraph

inductive Change where
  | add (n : Node)
  | join (parent child : Slot)
  | remove (s : Slot)
  | edit (f : Slot → Node → Node)

namespace Graph

def edited (g : Graph) (f : Slot → Node → Node) : Graph :=
  { g with slots := g.slots.mapIdx fun s o => o.map (f s) }

def apply (g : Graph) : Change → Graph
  | .add n =>
    match g.addNode n with
    | .ok (h, _) => h
    | .error _ => g
  | .join p c => g.addEdge p c
  | .remove s => g.removeNode s
  | .edit f => g.edited f

/-- Nodes are joined only where they are, and keep their ids when they are edited. -/
def Allows (g : Graph) : Change → Prop
  | .add _ => True
  | .join p c => g.contains p = true ∧ g.contains c = true
  | .remove _ => True
  | .edit f => ∀ s n, g.node? s = some n → (f s n).id = n.id

inductive Leads : Graph → List Change → Graph → Prop where
  | nil (g : Graph) : Leads g [] g
  | cons {g h : Graph} {c : Change} {cs : List Change} (hc : g.Allows c)
      (r : Leads (g.apply c) cs h) : Leads g (c :: cs) h

namespace Leads

variable {g h k : Graph} {cs ds : List Change}

theorem single {c : Change} (hc : g.Allows c) : Leads g [c] (g.apply c) :=
  .cons hc (.nil _)

theorem append (r : Leads g cs h) (q : Leads h ds k) : Leads g (cs ++ ds) k := by
  induction r with
  | nil g => exact q
  | cons hc r ih => exact .cons hc (ih q)

end Leads

def Becomes (g h : Graph) : Prop :=
  ∃ cs, Leads g cs h

theorem Becomes.refl (g : Graph) : Becomes g g :=
  ⟨[], .nil g⟩

theorem Becomes.trans {g h k : Graph} (a : Becomes g h) (b : Becomes h k) : Becomes g k := by
  obtain ⟨cs, r⟩ := a
  obtain ⟨ds, q⟩ := b
  exact ⟨cs ++ ds, r.append q⟩

theorem becomes_addNode {g h : Graph} {n : Node} {s : Slot} (hadd : g.addNode n = .ok (h, s)) :
    Becomes g h := by
  have happly : g.apply (.add n) = h := by rw [apply, hadd]
  exact ⟨[.add n], happly ▸ .single trivial⟩

theorem becomes_addEdge {g : Graph} {p c : Slot} (hp : g.contains p = true)
    (hc : g.contains c = true) : Becomes g (g.addEdge p c) :=
  ⟨[.join p c], .single ⟨hp, hc⟩⟩

theorem becomes_removeNode (g : Graph) (s : Slot) : Becomes g (g.removeNode s) :=
  ⟨[.remove s], .single trivial⟩

theorem node?_edited (g : Graph) (f : Slot → Node → Node) (s : Slot) :
    (g.edited f).node? s = (g.node? s).map (f s) := by
  simp only [edited, node?, Array.getElem?_mapIdx]
  cases g.slots[s]? with
  | none => rfl
  | some o => cases o <;> rfl

theorem contains_edited (g : Graph) (f : Slot → Node → Node) (s : Slot) :
    (g.edited f).contains s = g.contains s := by
  rw [contains, node?_edited, Option.isSome_map, contains]

theorem addNode_eq_ok {g h : Graph} {n : Node} {s : Slot} :
    g.addNode n = .ok (h, s) ↔ g.slotOf? n.id = none ∧
      ((∃ free, g.free = s :: free ∧
          h = { g with slots := g.slots.setIfInBounds s (some n), free }) ∨
        g.free = [] ∧ s = g.slots.size ∧ h = { g with slots := g.slots.push (some n) }) := by
  unfold addNode
  cases g.slotOf? n.id with
  | some t => simp
  | none =>
    simp only [Option.isSome_none, Bool.false_eq_true, if_false, true_and]
    cases g.free with
    | nil =>
      simp only [Except.ok.injEq, Prod.mk.injEq, reduceCtorEq, false_and, exists_false, false_or,
        true_and]
      constructor
      · rintro ⟨rfl, rfl⟩
        exact ⟨rfl, rfl⟩
      · rintro ⟨rfl, rfl⟩
        exact ⟨rfl, rfl⟩
    | cons t free =>
      simp only [Except.ok.injEq, Prod.mk.injEq, List.cons.injEq, reduceCtorEq, false_and, or_false]
      constructor
      · rintro ⟨rfl, rfl⟩
        exact ⟨free, ⟨rfl, rfl⟩, rfl⟩
      · rintro ⟨_, ⟨rfl, rfl⟩, rfl⟩
        exact ⟨rfl, rfl⟩

theorem addNode_eq_error {g : Graph} {n : Node} {s : Slot} (hs : g.slotOf? n.id = some s) :
    g.addNode n = .error (.duplicateNode n.id) := by
  rw [addNode, hs]
  rfl

theorem exists_addNode {g : Graph} {n : Node} (hn : g.slotOf? n.id = none) :
    ∃ h s, g.addNode n = .ok (h, s) := by
  cases hfree : g.free with
  | nil => exact ⟨_, _, addNode_eq_ok.mpr ⟨hn, .inr ⟨hfree, rfl, rfl⟩⟩⟩
  | cons s free => exact ⟨_, s, addNode_eq_ok.mpr ⟨hn, .inl ⟨free, hfree, rfl⟩⟩⟩

structure Consistent (g : Graph) : Prop where
  simple : g.Simple
  nodup_free : g.free.Nodup
  mem_free : ∀ s, s ∈ g.free ↔ s < g.slots.size ∧ g.node? s = none
  ids : ∀ s t m n, g.node? s = some m → g.node? t = some n → m.id = n.id → s = t

theorem consistent_empty : empty.Consistent := by
  refine ⟨simple_empty, List.nodup_nil, ?_, ?_⟩
  · simp [empty]
  · simp [empty, node?]

structure Gains (g : Graph) (n : Node) (s : Slot) (h : Graph) : Prop where
  edges : h.edges = g.edges
  vacant : g.node? s = none
  node : ∀ t, h.node? t = if t = s then some n else g.node? t
  fresh : ∀ t m, g.node? t = some m → m.id ≠ n.id

namespace Consistent

variable {g h : Graph} (hg : g.Consistent)
include hg

theorem slotOf?_eq_some (id : String) (s : Slot) :
    g.slotOf? id = some s ↔ ∃ n, g.node? s = some n ∧ n.id = id := by
  rw [slotOf?, Option.map_eq_some_iff]
  constructor
  · rintro ⟨⟨t, n⟩, hfind, rfl⟩
    exact ⟨n, (mem_nodes g t n).mp (List.mem_of_find?_eq_some hfind),
      by simpa using List.find?_some hfind⟩
  · rintro ⟨n, hn, hid⟩
    cases hfind : g.nodes.find? fun e => e.2.id = id with
    | none =>
      have := List.find?_eq_none.mp hfind (s, n) ((mem_nodes g s n).mpr hn)
      simp [hid] at this
    | some e =>
      have he := (mem_nodes g e.1 e.2).mp (List.mem_of_find?_eq_some hfind)
      have hid' : e.2.id = id := by simpa using List.find?_some hfind
      exact ⟨e, rfl, hg.ids e.1 s e.2 n he hn (hid'.trans hid.symm)⟩

theorem lookup_eq_ok {s : Slot} {n : Node} (hn : g.node? s = some n) : g.lookup n.id = .ok n := by
  rw [lookup, (hg.slotOf?_eq_some n.id s).mpr ⟨n, hn, rfl⟩, Option.bind_some, hn]

theorem gains {n : Node} {s : Slot} (hadd : g.addNode n = .ok (h, s)) : g.Gains n s h := by
  obtain ⟨hid, hplace⟩ := addNode_eq_ok.mp hadd
  have hfresh : ∀ t m, g.node? t = some m → m.id ≠ n.id := by
    intro t m hm heq
    rw [(hg.slotOf?_eq_some n.id t).mpr ⟨m, hm, heq⟩] at hid
    contradiction
  rcases hplace with ⟨free, hfree, rfl⟩ | ⟨hfree, rfl, rfl⟩
  · obtain ⟨hlt, hnone⟩ := (hg.mem_free s).mp (by simp [hfree])
    refine ⟨rfl, hnone, ?_, hfresh⟩
    intro t
    simp only [node?, Array.getElem?_setIfInBounds]
    by_cases hts : t = s
    · simp [hts, hlt]
    · simp [hts, Ne.symm hts]
  · refine ⟨rfl, by simp [node?], ?_, hfresh⟩
    intro t
    simp only [node?, Array.getElem?_push]
    split <;> simp

theorem addNode {n : Node} {s : Slot} (hadd : g.addNode n = .ok (h, s)) : h.Consistent := by
  obtain ⟨hedges, hvacant, hnode, hfresh⟩ := hg.gains hadd
  obtain ⟨_, hplace⟩ := addNode_eq_ok.mp hadd
  refine ⟨⟨hedges ▸ hg.simple.nodup, ?_⟩, ?_, ?_, ?_⟩
  · have hkept (t : Slot) (ht : g.contains t = true) : h.contains t = true := by
      rw [contains, hnode]
      split
      · rfl
      · exact ht
    intro e he
    rw [hedges] at he
    obtain ⟨h1, h2⟩ := hg.simple.live e he
    exact ⟨hkept _ h1, hkept _ h2⟩
  · rcases hplace with ⟨free, hfree, rfl⟩ | ⟨_, _, rfl⟩
    · exact (List.nodup_cons.mp (hfree ▸ hg.nodup_free)).2
    · exact hg.nodup_free
  · intro t
    have hmem := hg.mem_free t
    rw [hnode t]
    rcases hplace with ⟨free, hfree, rfl⟩ | ⟨hfree, rfl, rfl⟩
    · have hs := (List.nodup_cons.mp (hfree ▸ hg.nodup_free)).1
      rw [hfree, List.mem_cons] at hmem
      simp only [Array.size_setIfInBounds]
      by_cases hts : t = s
      · simp [hts, hs]
      · simpa [hts] using hmem
    · rw [hfree] at hmem
      simp only [hfree, List.not_mem_nil, false_iff, Array.size_push, not_and] at hmem ⊢
      intro hlt
      split
      · simp
      · next hts => exact hmem (Nat.lt_of_le_of_ne (Nat.lt_succ_iff.mp hlt) hts)
  · intro t u l m hl hm hid
    rw [hnode] at hl hm
    split at hl <;> split at hm
    · next ht hu => rw [ht, hu]
    · cases hl
      exact absurd hid.symm (hfresh u m hm)
    · cases hm
      exact absurd hid (hfresh t l hl)
    · exact hg.ids t u l m hl hm hid

theorem addEdge {p c : Slot} (hp : g.contains p = true) (hc : g.contains c = true) :
    (g.addEdge p c).Consistent := by
  have hframe : (g.addEdge p c).free = g.free ∧ (g.addEdge p c).slots = g.slots := by
    unfold Graph.addEdge
    split <;> exact ⟨rfl, rfl⟩
  refine ⟨hg.simple.addEdge p c hp hc, ?_, ?_, ?_⟩
  · rw [hframe.1]
    exact hg.nodup_free
  · intro s
    rw [hframe.1, hframe.2, node?_addEdge]
    exact hg.mem_free s
  · intro s t m n
    rw [node?_addEdge, node?_addEdge]
    exact hg.ids s t m n

theorem removeNode (s : Slot) : (g.removeNode s).Consistent := by
  by_cases hs : g.contains s = true
  · obtain ⟨n, hn⟩ := (contains_iff g s).mp hs
    have hfree : (g.removeNode s).free = s :: g.free := by rw [Graph.removeNode, if_pos hs]
    have hsize : (g.removeNode s).slots.size = g.slots.size := by
      rw [Graph.removeNode, if_pos hs, Array.size_setIfInBounds]
    refine ⟨hg.simple.removeNode s, ?_, ?_, ?_⟩
    · rw [hfree, List.nodup_cons]
      refine ⟨?_, hg.nodup_free⟩
      intro hmem
      rw [((hg.mem_free s).mp hmem).2] at hn
      contradiction
    · intro t
      rw [hfree, hsize, node?_removeNode, List.mem_cons, hg.mem_free t]
      by_cases hts : t = s
      · have := lt_size_of_node? g s n hn
        simp [hts, this]
      · simp [hts]
    · intro t u l m hl hm
      rw [node?_removeNode] at hl hm
      split at hl
      · contradiction
      · split at hm
        · contradiction
        · exact hg.ids t u l m hl hm
  · rw [Graph.removeNode, if_neg hs]
    exact hg

theorem edited {f : Slot → Node → Node} (hf : ∀ s n, g.node? s = some n → (f s n).id = n.id) :
    (g.edited f).Consistent := by
  refine ⟨hg.simple.congr rfl (g.contains_edited f), hg.nodup_free, ?_, ?_⟩
  · intro s
    rw [node?_edited, Option.map_eq_none_iff, Graph.edited, Array.size_mapIdx]
    exact hg.mem_free s
  · intro s t m n hm hn hid
    rw [node?_edited] at hm hn
    obtain ⟨m', hm', rfl⟩ := Option.map_eq_some_iff.mp hm
    obtain ⟨n', hn', rfl⟩ := Option.map_eq_some_iff.mp hn
    rw [hf s m' hm', hf t n' hn'] at hid
    exact hg.ids s t m' n' hm' hn' hid

theorem apply {c : Change} (hc : g.Allows c) : (g.apply c).Consistent := by
  cases c with
  | add n =>
    rw [Graph.apply]
    split
    · next hadd => exact hg.addNode hadd
    · exact hg
  | join p c => exact hg.addEdge hc.1 hc.2
  | remove s => exact hg.removeNode s
  | edit f => exact hg.edited hc

theorem leads {cs : List Change} (r : Leads g cs h) : h.Consistent := by
  induction r with
  | nil g => exact hg
  | cons hc r ih => exact ih (hg.apply hc)

end Consistent

theorem Becomes.consistent {g : Graph} (b : Becomes .empty g) : g.Consistent := by
  obtain ⟨cs, r⟩ := b
  exact consistent_empty.leads r

structure SameFrame (g h : Graph) : Prop where
  edges : h.edges = g.edges
  free : h.free = g.free
  size : h.slots.size = g.slots.size
  ids : ∀ s, (h.node? s).map (·.id) = (g.node? s).map (·.id)

namespace SameFrame

variable {g h k : Graph}

theorem refl (g : Graph) : SameFrame g g :=
  ⟨rfl, rfl, rfl, fun _ => rfl⟩

theorem trans (a : SameFrame g h) (b : SameFrame h k) : SameFrame g k :=
  ⟨b.edges.trans a.edges, b.free.trans a.free, b.size.trans a.size,
    fun s => (b.ids s).trans (a.ids s)⟩

theorem modify (g : Graph) (s : Slot) {f : Node → Node} (hf : ∀ n, (f n).id = n.id) :
    SameFrame g (g.modify s f) := by
  refine ⟨rfl, rfl, Array.size_modify .., ?_⟩
  intro t
  rw [node?_modify]
  split
  · rw [Option.map_map]
    exact congrArg (Option.map · (g.node? t)) (funext hf)
  · rfl

theorem becomes (e : SameFrame g h) : Becomes g h := by
  have hnode (s : Slot) (n : Node) (hn : g.node? s = some n) :
      ∃ m, h.node? s = some m ∧ m.id = n.id := by
    have hs := e.ids s
    rw [hn, Option.map_some] at hs
    exact Option.map_eq_some_iff.mp hs
  have hallows : g.Allows (.edit fun s n => (h.node? s).getD n) := by
    intro s n hn
    obtain ⟨m, hm, hid⟩ := hnode s n hn
    simpa [hm] using hid
  have hsame : g.apply (.edit fun s n => (h.node? s).getD n) = h := by
    apply ext_node?
    · rw [Graph.apply, edited, Array.size_mapIdx, e.size]
    · intro s
      rw [Graph.apply, node?_edited]
      cases hs : g.node? s with
      | none =>
        have := e.ids s
        rw [hs, Option.map_none, Option.map_eq_none_iff] at this
        rw [this]
        rfl
      | some n =>
        obtain ⟨m, hm, _⟩ := hnode s n hs
        rw [Option.map_some, hm]
        rfl
    · exact e.free.symm
    · exact e.edges.symm
  exact ⟨_, hsame ▸ Leads.single hallows⟩

end SameFrame

end Graph

end PageGraph
