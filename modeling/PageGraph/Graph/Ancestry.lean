import PageGraph.Graph

namespace PageGraph.Graph

def parent? (g : Graph) (s : Slot) : Option Slot :=
  (g.node? s).bind (·.parent)

def chain (g : Graph) : Nat → Slot → List Slot
  | 0, _ => []
  | length + 1, s =>
    s :: match g.parent? s with
      | none => []
      | some p => g.chain length p

/-- A node followed by its ancestors. A way up that is longer than the graph has come round, and is
cut there. -/
def ancestors (g : Graph) (s : Slot) : List Slot :=
  g.chain (g.nodeCount + 1) s

def meeting? (a b : List Slot) : Option Slot :=
  b.find? a.contains

def lca? (g : Graph) (a b : Slot) : Option Slot :=
  if a = b then some a else meeting? (g.ancestors a) (g.ancestors b)

def hops? (g : Graph) (down up : Slot) : Option Nat :=
  (g.ancestors down).idxOf? up

def isAncestor (g : Graph) (up down : Slot) : Bool :=
  g.lca? up down = some up

theorem head?_ancestors (g : Graph) (s : Slot) : (g.ancestors s).head? = some s :=
  rfl

theorem lca?_eq_meeting? (g : Graph) (a b : Slot) :
    g.lca? a b = meeting? (g.ancestors a) (g.ancestors b) := by
  unfold lca?
  split
  · next h =>
    subst h
    simp [meeting?, ancestors, chain]
  · rfl

end PageGraph.Graph
