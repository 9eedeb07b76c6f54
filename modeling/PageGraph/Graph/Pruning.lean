import PageGraph.Config
import PageGraph.Graph

/-!
Pruning: the removal of nodes that tell nothing. An empty leaf has neither a payload nor children; a
bridge has as many parents as children and only passes structure on. A pass picks its candidates
before it removes the first of them, and passes follow each other until one removes nothing.
-/

namespace PageGraph

structure PruneReport where
  emptyLeaves : Nat := 0
  bridges : Nat := 0
  removed : Nat := 0
  roots : Nat := 0
  passes : Nat := 0
  deriving DecidableEq, Repr

def PruneReport.toJson (r : PruneReport) : Json :=
  .object [
    ("emptyLeaves", .ofNat r.emptyLeaves),
    ("bridges", .ofNat r.bridges),
    ("removed", .ofNat r.removed),
    ("roots", .ofNat r.roots),
    ("passes", .ofNat r.passes)]

namespace Graph

def isEmptyLeaf (g : Graph) (s : Slot) (n : Node) : Bool :=
  n.payload.isNone && g.outDegree s = 0

def isBridge (g : Graph) (s : Slot) : Bool :=
  g.inDegree s = g.outDegree s

def emptyLeaves (g : Graph) (config : PruneConfig) : List (Slot × Node) :=
  g.nodes.filter fun (s, n) => !config.keeps n.tag && g.isEmptyLeaf s n

def bridges (g : Graph) (config : PruneConfig) : List (Slot × Node) :=
  g.nodes.filter fun (s, n) => !config.keeps n.tag && !g.isEmptyLeaf s n && g.isBridge s

def removable (g : Graph) (config : PruneConfig) : List (Slot × Node) :=
  g.nodes.filter fun (s, n) => !config.keeps n.tag && (g.isEmptyLeaf s n || g.isBridge s)

def joinAll (g : Graph) (parents children : List Slot) : Graph :=
  parents.foldl (fun g p => children.foldl (fun g c => g.addEdge p c) g) g

def inherit (g : Graph) (gone : Node) (id : String) (child : Slot) : Except GraphError Graph :=
  if g.contains child then
    .ok (g.modify child fun n =>
      { n with classes := gone.classes ++ n.classes, isRoot := n.isRoot || gone.isRoot })
  else .error (.missingNode id)

/-- Removes a node, known by its id when it was picked, and joins its parents to its children. -/
def dissolve (g : Graph) (s : Slot) (id : String) : Except GraphError Graph :=
  match g.node? s with
  | none => .error (.missingNode id)
  | some gone => do
    let children := g.children s
    let joined := g.joinAll (g.parents s) children
    let inherited ← children.foldlM (fun g c => g.inherit gone id c) joined
    return inherited.removeNode s

def dissolveAll (g : Graph) (picked : List (Slot × Node)) : Except GraphError Graph :=
  picked.foldlM (fun g (s, n) => g.dissolve s n.id) g

def prunePasses (config : PruneConfig) (g : Graph) (report : PruneReport) :
    Except GraphError (Graph × PruneReport) :=
  match g.dissolveAll (g.removable config) with
  | .error e => .error e
  | .ok next =>
    if next.nodeCount < g.nodeCount then
      prunePasses config next { report with
        emptyLeaves := report.emptyLeaves + (g.emptyLeaves config).length
        bridges := report.bridges + (g.bridges config).length
        removed := report.removed + (g.removable config).length
        passes := report.passes + 1 }
    else .ok (next, report)
termination_by g.nodeCount

def flagOrphans (g : Graph) : Graph :=
  { g with
    slots := g.slots.mapIdx fun s o => o.map fun n =>
      { n with isRoot := n.isRoot || g.inDegree s = 0 } }

def prune (g : Graph) (config : PruneConfig) : Except GraphError (Graph × PruneReport) := do
  let (g, report) ← prunePasses config g {}
  let g := g.flagOrphans.refreshParents
  return (g, { report with roots := g.roots.length })

end Graph

end PageGraph
