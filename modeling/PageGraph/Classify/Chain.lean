import PageGraph.Classify.Grid
import PageGraph.Classify.Heading
import PageGraph.Classify.Link

namespace PageGraph

def Graph.classify (g : Graph) : Label → Except GraphError Labelling
  | .title => .ok g.labelTitles
  | .link => .ok g.labelLinks
  | .linkList => .ok g.labelLinkLists
  | .grid => g.labelGrids

structure ClassifyReport where
  labelled : List (Label × Nat) := []
  deriving DecidableEq, Repr

namespace ClassifyReport

def put (r : ClassifyReport) (l : Label) (n : Nat) : ClassifyReport :=
  ⟨r.labelled.filter (·.1 ≠ l) ++ [(l, n)]⟩

def total (r : ClassifyReport) : Nat :=
  r.labelled.foldr (fun (_, n) total => n + total) 0

def toJson (r : ClassifyReport) : Json :=
  .object [("labelled", .object (r.labelled.map fun (l, n) => (l.name, .ofNat n)))]

end ClassifyReport

def classifierOrder : List Label :=
  [.grid, .linkList, .title, .link]

/-- Runs classifiers one after the other. The first that fails ends the chain, and what the ones
before it did remains. -/
def Graph.classifyAll (g : Graph) (report : ClassifyReport) :
    List Label → Graph × Except GraphError ClassifyReport
  | [] => (g, .ok report)
  | l :: ls =>
    match g.classify l with
    | .error e => (g, .error e)
    | .ok r => r.graph.classifyAll (report.put l r.gained) ls

def Graph.runChain (g : Graph) (labels : List Label) : Graph × Except GraphError ClassifyReport :=
  g.classifyAll {} labels

end PageGraph
