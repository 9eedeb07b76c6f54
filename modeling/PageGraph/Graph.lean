import PageGraph.Graph.Node

/-!
Directed graphs of page nodes. Nodes live in slots, and a slot that was freed last is taken again
first. Edges are kept in the order of their insertion, at most one for each pair of slots.
-/

namespace PageGraph

inductive GraphError where
  | noRoot
  | emptyGraph
  | duplicateNode (id : String)
  | missingNode (id : String)
  | unknownNode (id : String)
  deriving DecidableEq, Repr

def GraphError.message : GraphError → String
  | .noRoot => "Graph error: graph has no root node"
  | .emptyGraph => "Graph error: graph has no nodes"
  | .duplicateNode id => "Graph error: duplicate node id " ++ id
  | .missingNode id => "Graph error: node " ++ id ++ " disappeared during pruning"
  | .unknownNode id => "Unknown node: " ++ id

structure Graph where
  slots : Array (Option Node)
  /-- The free slots, the one freed last in front. -/
  free : List Slot
  edges : List (Slot × Slot)
  deriving Repr

namespace Graph

def empty : Graph :=
  ⟨#[], [], []⟩

def node? (g : Graph) (s : Slot) : Option Node :=
  g.slots[s]?.join

def contains (g : Graph) (s : Slot) : Bool :=
  (g.node? s).isSome

def nodes (g : Graph) : List (Slot × Node) :=
  (List.range g.slots.size).filterMap fun s => (g.node? s).map (s, ·)

def nodeCount (g : Graph) : Nat :=
  g.slots.countP Option.isSome

def edgeCount (g : Graph) : Nat :=
  g.edges.length

def slotsWhere (g : Graph) (p : Node → Bool) : List Slot :=
  (g.nodes.filter fun (_, n) => p n).map (·.1)

def slotOf? (g : Graph) (id : String) : Option Slot :=
  (g.nodes.find? fun (_, n) => n.id = id).map (·.1)

def slotOf (g : Graph) (id : String) : Except GraphError Slot :=
  match g.slotOf? id with
  | some s => .ok s
  | none => .error (.unknownNode id)

def lookup (g : Graph) (id : String) : Except GraphError Node :=
  match (g.slotOf? id).bind g.node? with
  | some n => .ok n
  | none => .error (.unknownNode id)

def addNode (g : Graph) (n : Node) : Except GraphError (Graph × Slot) :=
  if (g.slotOf? n.id).isSome then .error (.duplicateNode n.id)
  else match g.free with
    | s :: free => .ok ({ g with slots := g.slots.setIfInBounds s (some n), free }, s)
    | [] => .ok ({ g with slots := g.slots.push (some n) }, g.slots.size)

def hasEdge (g : Graph) (parent child : Slot) : Bool :=
  g.edges.contains (parent, child)

def addEdge (g : Graph) (parent child : Slot) : Graph :=
  if g.hasEdge parent child then g else { g with edges := g.edges ++ [(parent, child)] }

def removeNode (g : Graph) (s : Slot) : Graph :=
  if g.contains s then
    { slots := g.slots.setIfInBounds s none
      free := s :: g.free
      edges := g.edges.filter fun e => e.1 ≠ s && e.2 ≠ s }
  else g

def modify (g : Graph) (s : Slot) (f : Node → Node) : Graph :=
  { g with slots := g.slots.modify s (Option.map f) }

def children (g : Graph) (s : Slot) : List Slot :=
  (g.edges.filter (·.1 = s)).map (·.2)

def parents (g : Graph) (s : Slot) : List Slot :=
  (g.edges.filter (·.2 = s)).map (·.1)

def outDegree (g : Graph) (s : Slot) : Nat :=
  (g.children s).length

def inDegree (g : Graph) (s : Slot) : Nat :=
  (g.parents s).length

def roots (g : Graph) : List Slot :=
  g.slotsWhere (·.isRoot)

def designatedRoot (g : Graph) : Except GraphError Slot :=
  if g.nodeCount = 0 then .error .emptyGraph
  else match g.roots.head? with
    | some s => .ok s
    | none => .error .noRoot

def labelled (g : Graph) (l : Label) : List Slot :=
  g.slotsWhere (·.labels.contains l)

/-- Makes the first parent of every node, in the order of the edges, the one that ancestry
follows. -/
def refreshParents (g : Graph) : Graph :=
  { g with
    slots := g.slots.mapIdx fun s o => o.map fun n => { n with parent := (g.parents s).head? } }

theorem mem_children (g : Graph) (s t : Slot) : t ∈ g.children s ↔ (s, t) ∈ g.edges := by
  simp [children]

theorem mem_parents (g : Graph) (s t : Slot) : t ∈ g.parents s ↔ (t, s) ∈ g.edges := by
  simp [parents]

theorem mem_children_iff_mem_parents (g : Graph) (s t : Slot) :
    t ∈ g.children s ↔ s ∈ g.parents t := by
  rw [mem_children, mem_parents]

theorem hasEdge_iff (g : Graph) (s t : Slot) : g.hasEdge s t = true ↔ (s, t) ∈ g.edges := by
  simp [hasEdge]

end Graph

end PageGraph
