import PageGraph.Graph
import PageGraph.Search.Hit

namespace PageGraph

structure Anchor where
  slot : Slot
  id : String
  hit : Hit
  deriving DecidableEq, Repr

namespace Anchor

def searched? (m : TextMatch) (n : Node) : Option String :=
  if m.anchorTypes.isEmpty || n.labels.meets m.anchorTypes then n.payload.bind m.field.read?
  else none

def ofNode? (m : TextMatch) (window : UInt64) (s : Slot) (n : Node) :
    Except Fault (Option Anchor) :=
  match searched? m n with
  | none => .ok none
  | some text =>
    (Hit.find? m.kind m.ignoreCase window m.query text).map fun found =>
      found.map fun hit => ⟨s, n.id, hit⟩

def better (a b : Anchor) : Bool :=
  b.hit.score.bits ≤ a.hit.score.bits

end Anchor

def Graph.anchors (g : Graph) (m : TextMatch) (window : UInt64) : Except Fault (List Anchor) := do
  let found ← g.nodes.mapM fun (s, n) => Anchor.ofNode? m window s n
  return (found.filterMap id).mergeSort Anchor.better

end PageGraph
