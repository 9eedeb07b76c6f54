import PageGraph.Graph

namespace PageGraph

structure Graph.Stats where
  nodes : Nat
  edges : Nat
  roots : Nat
  payloads : Nat
  labels : List (Label × Nat)
  deriving DecidableEq, Repr

namespace Graph

def labelCounts (g : Graph) : List (Label × Nat) :=
  (Label.all.map fun l => (l, (g.labelled l).length)).filter (·.2 ≠ 0)

def stats (g : Graph) : Stats where
  nodes := g.nodeCount
  edges := g.edgeCount
  roots := g.roots.length
  payloads := (g.slotsWhere (·.payload.isSome)).length
  labels := g.labelCounts

def Stats.toJson (s : Stats) : Json :=
  .object [
    ("nodeCount", .ofNat s.nodes),
    ("edgeCount", .ofNat s.edges),
    ("rootCount", .ofNat s.roots),
    ("payloadCount", .ofNat s.payloads),
    ("labelCounts", .object (s.labels.map fun (l, n) => (l.name, .ofNat n)))]

end Graph

end PageGraph
