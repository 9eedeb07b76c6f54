import PageGraph.Graph.Label
import PageGraph.Graph.Payload

namespace PageGraph

/-- The place that a node has in a graph. A place is taken again after its node is gone. -/
abbrev Slot := Nat

structure Node where
  id : String
  tag : String
  /-- What the digits of the id are computed from. -/
  name : String
  index : Nat
  classes : List String
  payload : Option Payload
  isRoot : Bool
  labels : LabelSet
  /-- The one parent that ancestry follows. -/
  parent : Option Slot
  deriving DecidableEq, Repr

namespace Node

def isAnchor (n : Node) : Bool :=
  Text.sameIgnoringCase n.tag "a"

def idPrefix (n : Node) : List Char :=
  n.id.toList.takeWhile (· ≠ '_')

def toJson (n : Node) (parent : Json) : Json :=
  .object <| [
    ("id", .string n.id),
    ("element_type", .string n.tag),
    ("element_name", .string n.name),
    ("item_index", .ofNat n.index),
    ("class", .ofTexts n.classes),
    ("is_root", .bool n.isRoot),
    ("type", .ofList (fun l => .string l.name) n.labels.toList),
    ("primaryParent", parent)]
    ++ Json.optionalField "payload" Payload.toJson n.payload

end Node

end PageGraph
