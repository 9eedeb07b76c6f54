import PageGraph.Graph

namespace PageGraph.Graph

def nextLayer (g : Graph) (seen layer : List Slot) : List Slot :=
  ((layer.flatMap g.children).filter fun s => !seen.contains s).eraseDups

def layers (g : Graph) : Nat → Nat → List Slot → List Slot → List (Slot × Nat)
  | 0, _, _, _ => []
  | rounds + 1, depth, seen, layer =>
    if layer.isEmpty then []
    else
      let next := g.nextLayer seen layer
      layer.map (·, depth) ++ g.layers rounds (depth + 1) (seen ++ next) next

/-- Every node that can be reached from `root`, with the length of a shortest way. There are no more
layers than nodes. -/
def depthsFrom (g : Graph) (root : Slot) : List (Slot × Nat) :=
  g.layers (g.nodeCount + 1) 0 [root] [root]

end PageGraph.Graph
