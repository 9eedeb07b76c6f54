import PageGraph.Numeral
import PageGraph.Query.Syntax
import PageGraph.Query.Token

/-!
Reading a query:

    query    := [USE str] (MATCH pattern)+ [WHERE or] RETURN entity (',' entity)* [SKIP n] [LIMIT n]
    pattern  := node (edge node)*
    node     := '(' [ident] [':' ident ('|' ident)*] [properties] ')'
    edge     := ['<'] '-' ['[' [ident] [':' ident] ['*' [n] ['..' [n]]] ']'] '-' ['>']
    or       := and (OR and)*
    and      := primary (AND primary)*
    primary  := '(' or ')' | entity operator operand

A reader takes tokens from the front of a list. Where it fails, it tells what it found wrong and
which tokens were left at that point.
-/

namespace PageGraph.Query

structure Misfit where
  fault : SyntaxFault
  left : List Token

abbrev Reader (α : Type) := List Token → Except Misfit (α × List Token)

def misfit (what : String) (ts : List Token) : Misfit :=
  ⟨.expected what (ts.head?.map (·.text)), ts⟩

def startsPunct (p : String) (ts : List Token) : Bool :=
  ts.head?.any (·.isPunct p)

def startsKeyword (word : String) (ts : List Token) : Bool :=
  ts.head?.any (·.isKeyword word)

def startsKind (kind : TokenKind) (ts : List Token) : Bool :=
  ts.head?.any (·.kind = kind)

def readPunct (p : String) : Reader Unit := fun ts =>
  if startsPunct p ts then .ok ((), ts.tail) else .error (misfit (Text.quote p) ts)

def readKeyword (word : String) : Reader Unit := fun ts =>
  if startsKeyword word ts then .ok ((), ts.tail) else .error (misfit word ts)

def readKind (kind : TokenKind) (what : String) : Reader String
  | t :: ts => if t.kind = kind then .ok (t.text, ts) else .error (misfit what (t :: ts))
  | [] => .error (misfit what [])

def readIdent : Reader String :=
  readKind .ident "identifier"

def readInteger (value? : String → Option α) : Reader α := fun ts => do
  let (text, rest) ← readKind .number "integer" ts
  match value? text with
  | some n => return (n, rest)
  | none => .error ⟨.notAnInteger text, ts⟩

def readIf (starts : List Token → Bool) (item : Reader α) : Reader (Option α) := fun ts =>
  if starts ts then do
    let (a, ts) ← item ts
    return (some a, ts)
  else return (none, ts)

def readAfter (starts : List Token → Bool) (item : Reader α) : Reader (Option α) :=
  readIf starts fun ts => item ts.tail

def readManyUpTo (starts : List Token → Bool) (item : Reader α) : Nat → Reader (List α)
  | 0, ts => .ok ([], ts)
  | n + 1, ts =>
    if starts ts then do
      let (a, ts) ← item ts
      let (as, ts) ← readManyUpTo starts item n ts
      return (a :: as, ts)
    else return ([], ts)

def readMany (starts : List Token → Bool) (item : Reader α) : Reader (List α) := fun ts =>
  readManyUpTo starts item ts.length ts

def readSeparated (separator : List Token → Bool) (item : Reader α) : Reader (List α) := fun ts => do
  let (a, ts) ← item ts
  let (as, ts) ← readMany separator (fun ts => item ts.tail) ts
  return (a :: as, ts)

def isNegative : List Token → Bool
  | sign :: number :: _ => sign.isPunct "-" && number.kind = .number
  | _ => false

def valueOfToken? (t : Token) : Option Value :=
  match t.kind with
  | .str => some (.str t.text)
  | .number => some (.number t.text)
  | .punct => none
  | .ident =>
    if t.isKeyword "NULL" then some .null
    else if t.isKeyword "TRUE" then some (.bool true)
    else if t.isKeyword "FALSE" then some (.bool false)
    else none

def readValue : Reader Value := fun ts =>
  if isNegative ts then
    .ok (.number ("-" ++ (ts.tail.head?.map (·.text)).getD ""), ts.tail.tail)
  else match ts.head?.bind valueOfToken? with
    | some v => .ok (v, ts.tail)
    | none => .error (misfit "value" ts)

def readProperty : Reader (String × Value) := fun ts => do
  let (key, ts) ← readIdent ts
  let (_, ts) ← readPunct ":" ts
  let (value, ts) ← readValue ts
  return ((key, value), ts)

def readProperties : Reader (List (String × Value)) := fun ts => do
  let (properties, ts) ← readSeparated (startsPunct ",") readProperty ts
  let (_, ts) ← readPunct "\x7d" ts
  return (properties, ts)

def readNode : Reader NodePattern := fun ts => do
  let (_, ts) ← readPunct "(" ts
  let (var, ts) ← readIf (startsKind .ident) readIdent ts
  let (labels, ts) ← readAfter (startsPunct ":") (readSeparated (startsPunct "|") readIdent) ts
  let (properties, ts) ← readAfter (startsPunct "\x7b") readProperties ts
  let (_, ts) ← readPunct ")" ts
  return (⟨var, labels.getD [], properties.getD []⟩, ts)

/-- The range after a star: both bounds, one of them with two points, a single number for both, or
nothing at all. A missing lower bound is 1 and a missing upper one is open. -/
def readHops : Reader HopRange := fun ts => do
  let bound := readIf (startsKind .number) (readInteger Numeral.readUInt32?)
  let (min, ts) ← bound ts
  let (max, ts) ← readAfter (startsPunct "..") bound ts
  return (⟨min.getD 1, max.getD min⟩, ts)

def readEdgeBody : Reader (Option String × Option String × Option HopRange) := fun ts => do
  let (var, ts) ← readIf (startsKind .ident) readIdent ts
  let (type, ts) ← readAfter (startsPunct ":") readIdent ts
  let (hops, ts) ← readAfter (startsPunct "*") readHops ts
  let (_, ts) ← readPunct "]" ts
  return ((var, type, hops), ts)

/-- An edge points one way only where exactly one arrow head is written. -/
def Direction.ofHeads : Bool → Bool → Direction
  | false, true => .right
  | true, false => .left
  | _, _ => .both

def readEdge : Reader EdgePattern := fun ts => do
  let (left, ts) ← readIf (startsPunct "<") (readPunct "<") ts
  let (_, ts) ← readPunct "-" ts
  let (body, ts) ← readAfter (startsPunct "[") readEdgeBody ts
  let (_, ts) ← readPunct "-" ts
  let (right, ts) ← readIf (startsPunct ">") (readPunct ">") ts
  let (var, type, hops) := body.getD (none, none, none)
  return (⟨var, type, .ofHeads left.isSome right.isSome, hops⟩, ts)

def readStep : Reader (EdgePattern × NodePattern) := fun ts => do
  let (edge, ts) ← readEdge ts
  let (node, ts) ← readNode ts
  return ((edge, node), ts)

def startsEdge (ts : List Token) : Bool :=
  startsPunct "-" ts || startsPunct "<" ts

def readPattern : Reader Pattern := fun ts => do
  let (first, ts) ← readNode ts
  let (steps, ts) ← readMany startsEdge readStep ts
  return (⟨first :: steps.map (·.2), steps.map (·.1)⟩, ts)

def readEntity : Reader Entity := fun ts => do
  let (var, ts) ← readIdent ts
  let (property, ts) ← readAfter (startsPunct ".") readIdent ts
  return (⟨var, property⟩, ts)

def operatorOfToken? (t : Token) : Option Operator :=
  match t.kind with
  | .punct =>
    if t.text = "=" || t.text = "==" then some .eq
    else if t.text = "<>" then some .neq
    else if t.text = ">" then some .gt
    else if t.text = "<" then some .lt
    else if t.text = ">=" then some .gte
    else if t.text = "<=" then some .lte
    else none
  | .ident =>
    if t.isKeyword "IS" then some .is
    else if t.isKeyword "CONTAINS" then some .contains
    else none
  | _ => none

def readOperator : Reader Operator := fun ts =>
  match ts.head?.bind operatorOfToken? with
  | some op => .ok (op, ts.tail)
  | none => .error (misfit "comparison operator" ts)

def readOperand : Reader Operand := fun ts =>
  if startsKind .ident ts && (ts.head?.bind valueOfToken?).isNone then do
    let (e, ts) ← readEntity ts
    return (.entity e, ts)
  else do
    let (v, ts) ← readValue ts
    return (.value v, ts)

def readCondition : Reader Condition := fun ts => do
  let (entity, ts) ← readEntity ts
  let (op, ts) ← readOperator ts
  let (operand, ts) ← readOperand ts
  return (⟨entity, op, operand⟩, ts)

def readPrimary (inner : Reader Predicate) : Reader Predicate := fun ts =>
  if startsPunct "(" ts then do
    let (p, ts) ← inner ts.tail
    let (_, ts) ← readPunct ")" ts
    return (p, ts)
  else do
    let (c, ts) ← readCondition ts
    return (.condition c, ts)

def readJoined (word : String) (join : Predicate → Predicate → Predicate)
    (operand : Reader Predicate) : Reader Predicate := fun ts => do
  let (p, ts) ← operand ts
  let (ps, ts) ← readMany (startsKeyword word) (fun ts => operand ts.tail) ts
  return (ps.foldl join p, ts)

def readPredicateWithin : Nat → Reader Predicate
  | 0 => fun ts => .error (misfit "identifier" ts)
  | depth + 1 =>
    readJoined "OR" .or (readJoined "AND" .and (readPrimary (readPredicateWithin depth)))

/-- Parentheses cannot be nested deeper than there are tokens. -/
def readPredicate : Reader Predicate := fun ts =>
  readPredicateWithin (ts.length + 1) ts

def readReturns : Reader Returns := fun ts => do
  let (items, ts) ← readSeparated (startsPunct ",") readEntity ts
  let (skip, ts) ← readAfter (startsKeyword "SKIP") (readInteger Numeral.readUInt64?) ts
  let (limit, ts) ← readAfter (startsKeyword "LIMIT") (readInteger Numeral.readUInt64?) ts
  return (⟨items, skip, limit⟩, ts)

def readQuery : Reader Query := fun ts => do
  let (page, ts) ← readAfter (startsKeyword "USE") (readKind .str "quoted URL") ts
  let (patterns, ts) ← readMany (startsKeyword "MATCH") (fun ts => readPattern ts.tail) ts
  if patterns.isEmpty then
    .error (misfit "MATCH" ts)
  else
    let (predicate, ts) ← readAfter (startsKeyword "WHERE") readPredicate ts
    let (_, ts) ← readKeyword "RETURN" ts
    let (returns, ts) ← readReturns ts
    return (⟨page, patterns, predicate, returns⟩, ts)

def ofTokens (ts : List Token) : Except Misfit Query := do
  let (query, left) ← readQuery ts
  match left with
  | [] => return query
  | t :: _ => .error ⟨.trailing t.text, left⟩

def Misfit.locate (m : Misfit) (stop : Nat) : SyntaxError :=
  ⟨m.fault, (m.left.head?.map (·.offset)).getD stop⟩

def parse (text : String) : Except SyntaxError Query := do
  let ts ← tokenize text
  (ofTokens ts).mapError (·.locate text.utf8ByteSize)

end PageGraph.Query
