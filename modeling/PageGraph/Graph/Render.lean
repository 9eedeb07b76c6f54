import PageGraph.Graph

namespace PageGraph

def Node.shown? (n : Node) : Option String :=
  n.payload.map fun p =>
    if n.isAnchor then p.href.getD ""
    else if Text.sameIgnoringCase n.tag "img" then p.alt.getD ""
    else p.text

def Node.line (n : Node) : String :=
  n.tag
    ++ (if n.classes.isEmpty then "" else " ." ++ ".".intercalate n.classes)
    ++ (if n.labels.isEmpty then ""
      else " <" ++ ",".intercalate (n.labels.toList.map (·.name)) ++ ">")
    ++ " [" ++ n.id ++ "]"
    ++ (match n.shown? with
      | none => ""
      | some s => " / " ++ s)

namespace Graph

/-- Walks the nodes on a stack, each with its depth, and what lies below them, in depth-first order.
A node is visited where it is first taken from the stack; `steps` bounds how many are taken. -/
def walk (g : Graph) : Nat → List Slot → List (Slot × Nat) → List (Slot × Nat)
  | 0, _, _ => []
  | _, _, [] => []
  | steps + 1, visited, (s, depth) :: stack =>
    if visited.contains s then g.walk steps visited stack
    else (s, depth) :: g.walk steps (s :: visited) ((g.children s).map (·, depth + 1) ++ stack)

/-- A node and what can be reached from it, each once. Besides the node itself, no more entries are
put on the stack than there are edges. -/
def outline (g : Graph) (s : Slot) : List (Slot × Nat) :=
  g.walk (g.edgeCount + 1) [] [(s, 0)]

def outlineLine (g : Graph) (entry : Slot × Nat) : String :=
  match g.node? entry.1 with
  | none => ""
  | some n => String.ofList (List.replicate (4 * entry.2) ' ') ++ n.line ++ "\n"

def render (g : Graph) (id : String) : Except GraphError String := do
  let s ← g.slotOf id
  return String.join ((g.outline s).map g.outlineLine)

end Graph

end PageGraph
