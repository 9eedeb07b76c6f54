import PageGraph.Graph.Ancestry
import PageGraph.Search.Anchor

/-!
Neighbours: the nodes structurally nearest to an anchor. A candidate that lies above the anchor is
as far as there are hops up to it. For any other one the way goes over the lowest common ancestor:
its first distance is the hops of the anchor up to there, and its second one the longer of both
ways. Only candidates that tie with the best in both distances remain.
-/

namespace PageGraph

structure Candidate where
  slot : Slot
  id : String
  way : List Slot
  childCount : Nat
  type : Option Label
  deriving DecidableEq, Repr

structure Neighbour where
  slot : Slot
  id : String
  ancestorDist : Nat
  dist : Nat
  childCount : Nat
  type : Option Label
  deriving DecidableEq, Repr

structure AnchorMatches where
  anchor : String
  hit : Hit
  neighbours : List Neighbour
  deriving DecidableEq, Repr

namespace Neighbour

def before (a b : Neighbour) : Bool :=
  a.ancestorDist < b.ancestorDist || (a.ancestorDist = b.ancestorDist &&
    (a.dist < b.dist || (a.dist = b.dist && b.childCount ≤ a.childCount)))

def tiesWith (a b : Neighbour) : Bool :=
  a.ancestorDist = b.ancestorDist && a.dist = b.dist

end Neighbour

namespace Candidate

/-- The distances of a candidate from an anchor, given the way up from the anchor; none if the ways
up do not meet. Where the candidate lies above the anchor they meet at the candidate itself, so that
both distances are the hops up to it. -/
def distances? (anchorWay : List Slot) (c : Candidate) : Option (Nat × Nat) := do
  let top ← Graph.meeting? anchorWay c.way
  let up ← anchorWay.idxOf? top
  let down ← c.way.idxOf? top
  return (up, max down up)

def near? (anchorWay : List Slot) (c : Candidate) : Option Neighbour :=
  (c.distances? anchorWay).map fun (ancestorDist, dist) =>
    ⟨c.slot, c.id, ancestorDist, dist, c.childCount, c.type⟩

end Candidate

namespace Graph

def targets (g : Graph) (p : Plan) : List Slot :=
  g.slotsWhere fun n => p.targetTypes.isEmpty || n.labels.meets p.targetTypes

def wantedType (p : Plan) (n : Node) : Option Label :=
  if p.targetTypes.isEmpty then n.labels.first?
  else n.labels.toList.find? p.targetTypes.contains

def candidateOf (g : Graph) (p : Plan) (s : Slot) (n : Node) : Candidate :=
  ⟨s, n.id, g.ancestors s, g.outDegree s, wantedType p n⟩

def candidatesFor (g : Graph) (p : Plan) : List Candidate :=
  (g.targets p).filterMap fun s => (g.node? s).map (g.candidateOf p s)

def nearest (g : Graph) (p : Plan) (candidates : List Candidate) (anchor : Slot) :
    List Neighbour :=
  let anchorWay := g.ancestors anchor
  let scored := (candidates.filterMap (·.near? anchorWay)).mergeSort Neighbour.before
  match scored.head? with
  | none => []
  | some best =>
    (scored.filter fun m =>
      m.tiesWith best && (!p.containing || g.isAncestor m.slot anchor)).take p.topNeighbours.toNat

def matchAnchors (g : Graph) (p : Plan) (anchors : List Anchor) : List AnchorMatches :=
  let candidates := g.candidatesFor p
  ((anchors.drop p.skipAnchors.toNat).take p.topAnchors.toNat).map fun a =>
    ⟨a.id, a.hit, g.nearest p candidates a.slot⟩

end Graph

def Neighbour.toJson (m : Neighbour) : Json :=
  .object [
    ("nodeId", .string m.id),
    ("ancestorDist", .ofNat m.ancestorDist),
    ("dist", .ofNat m.dist),
    ("childCount", .ofNat m.childCount),
    ("type", .ofOption Label.toJson m.type)]

def AnchorMatches.toJson (score : Score → Json) (m : AnchorMatches) : Json :=
  .object [
    ("anchorId", .string m.anchor),
    ("score", score m.hit.score),
    ("snippet", .string m.hit.snippet),
    ("matches", .ofList Neighbour.toJson m.neighbours)]

end PageGraph
