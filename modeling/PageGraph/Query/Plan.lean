import PageGraph.Graph.Label
import PageGraph.Graph.Payload
import PageGraph.Json.Decode

namespace PageGraph

inductive MatchKind where
  | exact
  | contains
  deriving DecidableEq, Repr

namespace MatchKind

def name : MatchKind → String
  | .exact => "exact"
  | .contains => "contains"

def ofName? (s : String) : Option MatchKind :=
  [.exact, .contains].find? (·.name = s)

end MatchKind

structure TextMatch where
  query : String
  ignoreCase : Bool
  kind : MatchKind
  field : PayloadField := .text
  anchorTypes : List Label := []
  deriving DecidableEq, Repr

structure Plan where
  page : Option String
  textMatch : TextMatch
  /-- The labels that neighbours must carry one of; no label means every node. -/
  targetTypes : List Label
  topAnchors : UInt64
  topNeighbours : UInt64
  skipAnchors : UInt64
  /-- Whether only nodes above the anchor count as neighbours. -/
  containing : Bool
  returns : List String
  deriving DecidableEq, Repr

def Label.ofJson? (j : Json) : Option Label :=
  j.constant?.bind Label.ofName?

def Label.toJson (l : Label) : Json :=
  .string l.name

def MatchKind.ofJson? (j : Json) : Option MatchKind :=
  j.constant?.bind MatchKind.ofName?

def PayloadField.ofJson? (j : Json) : Option PayloadField :=
  j.constant?.bind PayloadField.ofName?

namespace TextMatch

def ofJson? (j : Json) : Option TextMatch := do
  let r ← j.record? ["query", "caseInsensitive", "matchKind", "field", "anchorTypes"]
  let query ← r.required "query" Json.text?
  let ignoreCase ← r.required "caseInsensitive" Json.bool?
  let kind ← r.required "matchKind" MatchKind.ofJson?
  let field ← r.defaulted "field" PayloadField.ofJson? .text
  let anchorTypes ← r.defaulted "anchorTypes" (Json.list? Label.ofJson?) []
  return { query, ignoreCase, kind, field, anchorTypes }

def toJson (m : TextMatch) : Json :=
  .object [
    ("query", .string m.query),
    ("caseInsensitive", .bool m.ignoreCase),
    ("matchKind", .string m.kind.name),
    ("field", .string m.field.name),
    ("anchorTypes", .ofList Label.toJson m.anchorTypes)]

end TextMatch

namespace Plan

def ofJson? (j : Json) : Option Plan := do
  let r ← j.record? ["pageUrl", "textMatch", "targetTypes", "topKAnchors", "topKNeighbors",
    "skipAnchors", "requireAncestorInclusion", "returns"]
  let page ← r.defaulted "pageUrl" (Json.nullable? Json.text?) none
  let textMatch ← r.required "textMatch" TextMatch.ofJson?
  let targetTypes ← r.required "targetTypes" (Json.list? Label.ofJson?)
  let topAnchors ← r.required "topKAnchors" Json.uint64?
  let topNeighbours ← r.required "topKNeighbors" Json.uint64?
  let skipAnchors ← r.defaulted "skipAnchors" Json.uint64? 0
  let containing ← r.required "requireAncestorInclusion" Json.bool?
  let returns ← r.defaulted "returns" (Json.list? Json.text?) []
  return {
    page, textMatch, targetTypes, topAnchors, topNeighbours, skipAnchors, containing, returns }

def toJson (p : Plan) : Json :=
  .object <|
    Json.optionalField "pageUrl" .string p.page ++ [
    ("textMatch", p.textMatch.toJson),
    ("targetTypes", .ofList Label.toJson p.targetTypes),
    ("topKAnchors", .ofNat p.topAnchors.toNat),
    ("topKNeighbors", .ofNat p.topNeighbours.toNat),
    ("skipAnchors", .ofNat p.skipAnchors.toNat),
    ("requireAncestorInclusion", .bool p.containing),
    ("returns", .ofTexts p.returns)]

end Plan

end PageGraph
