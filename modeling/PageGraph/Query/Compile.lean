import PageGraph.Config
import PageGraph.Query.Parser
import PageGraph.Query.Plan

/-!
Compiling queries into plans. Two shapes of pattern can be compiled. In `(n:Label)` the text is
looked for in all nodes. In `(target:Label)-[..]-(anchor:Label)` it is looked for in the nodes that
carry a label of the second node, and the neighbours carry a label of the first one and contain the
anchor, whichever way the arrow points. Of a compound WHERE one condition is compiled: the first
that names the anchor, else the first of all.
-/

namespace PageGraph

inductive CompileError where
  | noMatchClause
  | multipleMatchClauses (count : Nat)
  | unsupportedShape (nodes edges : Nat)
  | missingLabel (node : String)
  | unknownLabel (label : String)
  | missingCondition
  | unsupportedOperator (op : String)
  | unsupportedValue (value : String)
  | unknownProperty (property : String)
  | unknownVariable (var : String)
  | bidirectionalHopRange
  | invalidHopRange (min max : UInt32)
  | unsupportedEdgeType (type : String)
  | unsupportedPropertyFilter (node : String)
  | missingPage
  deriving DecidableEq, Repr

namespace CompileError

def detail : CompileError → String
  | .noMatchClause => "query has no MATCH clause"
  | .multipleMatchClauses count => "only one MATCH clause is supported, got " ++ toString count
  | .unsupportedShape nodes edges =>
    "unsupported pattern shape: " ++ toString nodes ++ " node(s), " ++ toString edges ++ " edge(s)"
  | .missingLabel node => "node `" ++ node ++ "` needs at least one type label"
  | .unknownLabel label => "unknown type label `" ++ label ++ "`"
  | .missingCondition => "query has no WHERE condition"
  | .unsupportedOperator op => "operator `" ++ op ++ "` is not supported for text matching"
  | .unsupportedValue value => "value `" ++ value ++ "` cannot be used as a text query"
  | .unknownProperty property => "unknown property `" ++ property ++ "`"
  | .unknownVariable var => "variable `" ++ var ++ "` is not declared in MATCH"
  | .bidirectionalHopRange => "hop ranges are not supported on bidirectional edges"
  | .invalidHopRange min max =>
    "invalid hop range " ++ toString min.toNat ++ ".." ++ toString max.toNat
  | .unsupportedEdgeType type => "typed edges are not supported (`:" ++ type ++ "`)"
  | .unsupportedPropertyFilter node => "property maps on node `" ++ node ++ "` are not supported"
  | .missingPage => "query has no USE clause and no page was supplied"

def message (e : CompileError) : String :=
  "Compile error: " ++ e.detail

end CompileError

namespace Query

/-- A node or an edge without a name is called by its position. -/
def NodePattern.name (i : Nat) (n : NodePattern) : String :=
  n.var.getD ("_n" ++ toString i)

def EdgePattern.name (i : Nat) (e : EdgePattern) : String :=
  e.var.getD ("_e" ++ toString i)

def readLabel (spelling : String) : Except CompileError Label :=
  match Label.ofSpelling? spelling with
  | some l => .ok l
  | none => .error (.unknownLabel spelling)

def NodePattern.types (i : Nat) (n : NodePattern) : Except CompileError (List Label) :=
  if !n.properties.isEmpty then .error (.unsupportedPropertyFilter (n.name i))
  else if n.labels.isEmpty then .error (.missingLabel (n.name i))
  else do
    let labels ← n.labels.mapM readLabel
    return (LabelSet.ofList labels).toList

def HopRange.check (h : HopRange) : Except CompileError Unit :=
  match h.max with
  | none => .ok ()
  | some max => if max < h.min then .error (.invalidHopRange h.min max) else .ok ()

def EdgePattern.check (e : EdgePattern) : Except CompileError Unit :=
  match e.type, e.hops with
  | some type, _ => .error (.unsupportedEdgeType type)
  | none, none => .ok ()
  | none, some hops =>
    if e.direction = .both then .error .bidirectionalHopRange else hops.check

structure Roles where
  declared : List String
  anchor : String
  anchorTypes : List Label
  targetTypes : List Label
  containing : Bool
  deriving DecidableEq, Repr

def Pattern.roles : Pattern → Except CompileError Roles
  | ⟨[n], []⟩ => do
    let _ ← n.types 0
    return ⟨[n.name 0], n.name 0, [], [], false⟩
  | ⟨[t, a], [e]⟩ => do
    let targetTypes ← t.types 0
    let anchorTypes ← a.types 1
    e.check
    return ⟨[t.name 0, a.name 1, e.name 0], a.name 1, anchorTypes, targetTypes, true⟩
  | p => .error (.unsupportedShape p.nodes.length p.edges.length)

def select? (anchor : String) (conditions : List Condition) : Option Condition :=
  conditions.find? (·.entity.var = anchor) <|> conditions.head?

def Operator.matchKind : Operator → Except CompileError MatchKind
  | .eq => .ok .exact
  | .contains => .ok .contains
  | op => .error (.unsupportedOperator op.show)

def Operand.text : Operand → Except CompileError String
  | .value (.str s) => .ok s
  | .value (.number literal) => .ok literal
  | operand => .error (.unsupportedValue operand.show)

def Entity.check (declared : List String) (e : Entity) : Except CompileError Unit :=
  if declared.contains e.var then .ok () else .error (.unknownVariable e.var)

def Entity.field (e : Entity) : Except CompileError PayloadField :=
  match e.property with
  | none => .ok .text
  | some property =>
    match PayloadField.ofProperty? property with
    | some f => .ok f
    | none => .error (.unknownProperty property)

def Condition.textMatch (c : Condition) (roles : Roles) (ignoreCase : Bool) :
    Except CompileError TextMatch := do
  c.entity.check roles.declared
  let field ← c.entity.field
  let kind ← c.op.matchKind
  let query ← c.operand.text
  return { query, ignoreCase, kind, field, anchorTypes := roles.anchorTypes }

def onlyPattern : List Pattern → Except CompileError Pattern
  | [] => .error .noMatchClause
  | [p] => .ok p
  | ps => .error (.multipleMatchClauses ps.length)

def selected (q : Query) (anchor : String) : Except CompileError Condition :=
  match select? anchor ((q.predicate.map (·.conditions)).getD []) with
  | some c => .ok c
  | none => .error .missingCondition

def plan (q : Query) (config : SearchConfig) : Except CompileError Plan := do
  let pattern ← onlyPattern q.patterns
  let roles ← pattern.roles
  let condition ← q.selected roles.anchor
  let textMatch ← condition.textMatch roles config.ignoreCase
  q.returns.items.forM (Entity.check roles.declared)
  return {
    page := q.page
    textMatch
    targetTypes := roles.targetTypes
    topAnchors := q.returns.limit.getD config.topAnchors
    topNeighbours := config.topNeighbours
    skipAnchors := q.returns.skip.getD 0
    containing := roles.containing
    returns := q.returns.items.map (·.show) }

end Query

inductive QueryError where
  | malformed (e : Query.SyntaxError)
  | unsupported (e : CompileError)
  deriving DecidableEq, Repr

def QueryError.message : QueryError → String
  | .malformed e => e.message
  | .unsupported e => e.message

def Plan.ofText (text : String) (config : SearchConfig) : Except QueryError Plan := do
  let query ← (Query.parse text).mapError .malformed
  (query.plan config).mapError .unsupported

end PageGraph
