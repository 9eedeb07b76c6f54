import PageGraph.Graph

namespace PageGraph

structure Labelling where
  graph : Graph
  gained : Nat

namespace Labelling

def start (g : Graph) : Labelling :=
  ⟨g, 0⟩

def add (place : LabelSet → Label → LabelSet) (l : Label) (r : Labelling) (s : Slot) : Labelling :=
  match r.graph.node? s with
  | none => r
  | some n =>
    { graph := r.graph.modify s fun n => { n with labels := place n.labels l }
      gained := if n.labels.contains l then r.gained else r.gained + 1 }

end Labelling

end PageGraph
