import PageGraph.Numeral
import PageGraph.Proofs.Query.Phrase
import PageGraph.Query.Syntax

/-!
The grammar of queries. Each rule is a type, whose members are the derivations of the rule, with the
part of a query that a derivation stands for.
-/

namespace PageGraph.Query

open Phrase

def isKind (kind : TokenKind) (t : Token) : Bool :=
  t.kind = kind

abbrev OfKind (kind : TokenKind) : Type :=
  Lexeme (isKind kind)

abbrev Ident : Type :=
  OfKind .ident

abbrev Punct (p : String) : Type :=
  Lexeme fun t => t.isPunct p

abbrev Keyword (word : String) : Type :=
  Lexeme fun t => t.isKeyword word

abbrev Integer {β : Type} (value? : String → Option β) : Type :=
  Spelled fun (n : β) t => t.kind = .number ∧ value? t.text = some n

abbrev Separated (separator : String) (α : Type) : Type :=
  α × List (Punct separator × α)

def Separated.items {separator : String} {α β : Type} (f : α → β) (x : Separated separator α) :
    List β :=
  f x.1 :: x.2.map fun y => f y.2

abbrev Repeated (α : Type) : Type :=
  α × List α

def Value.IsSpelled : Value → Token → Prop
  | .str s, t => t.kind = .str ∧ t.text = s
  | .number literal, t => t.kind = .number ∧ t.text = literal
  | .bool true, t => t.isKeyword "TRUE" = true
  | .bool false, t => t.isKeyword "FALSE" = true
  | .null, t => t.isKeyword "NULL" = true

abbrev ValuePhrase : Type :=
  (Punct "-" × OfKind .number) ⊕ Spelled Value.IsSpelled

def ValuePhrase.value : ValuePhrase → Value
  | .inl (_, number) => .number ("-" ++ number.1.text)
  | .inr literal => literal.meaning

abbrev EntityPhrase (p : Token → Bool) : Type :=
  Lexeme p × Option (Punct "." × Ident)

def EntityPhrase.entity {p : Token → Bool} : EntityPhrase p → Entity
  | (var, property) => ⟨var.1.text, property.map (·.2.1.text)⟩

def Operator.IsSpelled : Operator → Token → Prop
  | .eq, t => t.isPunct "=" = true ∨ t.isPunct "==" = true
  | .neq, t => t.isPunct "<>" = true
  | .gt, t => t.isPunct ">" = true
  | .lt, t => t.isPunct "<" = true
  | .gte, t => t.isPunct ">=" = true
  | .lte, t => t.isPunct "<=" = true
  | .is, t => t.isKeyword "IS" = true
  | .contains, t => t.isKeyword "CONTAINS" = true

def isReference (t : Token) : Bool :=
  t.kind = .ident && !t.isKeyword "NULL" && !t.isKeyword "TRUE" && !t.isKeyword "FALSE"

abbrev OperandPhrase : Type :=
  EntityPhrase isReference ⊕ ValuePhrase

def OperandPhrase.operand : OperandPhrase → Operand
  | .inl e => .entity (EntityPhrase.entity e)
  | .inr v => .value (ValuePhrase.value v)

abbrev PropertyPhrase : Type :=
  Ident × Punct ":" × ValuePhrase

def PropertyPhrase.property : PropertyPhrase → String × Value
  | (key, _, v) => (key.1.text, ValuePhrase.value v)

abbrev NodePhrase : Type :=
  Punct "(" × Option Ident × Option (Punct ":" × Separated "|" Ident) ×
    Option (Punct "\x7b" × Separated "," PropertyPhrase × Punct "\x7d") × Punct ")"

def NodePhrase.node : NodePhrase → NodePattern
  | (_, var, labels, properties, _) =>
    { var := var.map (·.1.text)
      labels := labels.elim [] fun x => x.2.items (·.1.text)
      properties := properties.elim [] fun x => x.2.1.items PropertyPhrase.property }

abbrev HopsPhrase : Type :=
  Option (Integer Numeral.readUInt32?) × Option (Punct ".." × Option (Integer Numeral.readUInt32?))

def HopsPhrase.hops : HopsPhrase → HopRange
  | (none, none) => ⟨1, none⟩
  | (some n, none) => ⟨n.meaning, some n.meaning⟩
  | (none, some (_, none)) => ⟨1, none⟩
  | (none, some (_, some m)) => ⟨1, some m.meaning⟩
  | (some n, some (_, none)) => ⟨n.meaning, none⟩
  | (some n, some (_, some m)) => ⟨n.meaning, some m.meaning⟩

abbrev EdgePhrase : Type :=
  Option (Punct "<") × Punct "-" ×
    Option (Punct "[" × Option Ident × Option (Punct ":" × Ident) ×
      Option (Punct "*" × HopsPhrase) × Punct "]") ×
    Punct "-" × Option (Punct ">")

def EdgePhrase.direction : EdgePhrase → Direction
  | (none, _, _, _, some _) => .right
  | (some _, _, _, _, none) => .left
  | _ => .both

def EdgePhrase.edge : EdgePhrase → EdgePattern
  | e@(_, _, none, _, _) => ⟨none, none, direction e, none⟩
  | e@(_, _, some (_, var, type, hops, _), _, _) =>
    { var := var.map (·.1.text)
      type := type.map (·.2.1.text)
      direction := direction e
      hops := hops.map fun x => HopsPhrase.hops x.2 }

abbrev PatternPhrase : Type :=
  NodePhrase × List (EdgePhrase × NodePhrase)

-- Larger phrases would pass the limit of instance search without this step.
instance : Phrase PatternPhrase := inferInstance

def PatternPhrase.pattern : PatternPhrase → Pattern
  | (first, steps) =>
    ⟨NodePhrase.node first :: steps.map fun s => NodePhrase.node s.2,
      steps.map fun s => EdgePhrase.edge s.1⟩

abbrev ConditionPhrase : Type :=
  EntityPhrase (isKind .ident) × Spelled Operator.IsSpelled × OperandPhrase

def ConditionPhrase.condition : ConditionPhrase → Condition
  | (entity, op, operand) => ⟨EntityPhrase.entity entity, op.meaning, OperandPhrase.operand operand⟩

mutual

inductive OrPhrase where
  | one (operand : AndPhrase)
  | or (left : OrPhrase) (word : Keyword "OR") (right : AndPhrase)

inductive AndPhrase where
  | one (operand : PrimaryPhrase)
  | and (left : AndPhrase) (word : Keyword "AND") (right : PrimaryPhrase)

inductive PrimaryPhrase where
  | condition (c : ConditionPhrase)
  | group (opening : Punct "(") (inner : OrPhrase) (closing : Punct ")")

end

mutual

def OrPhrase.tokens : OrPhrase → List Token
  | .one operand => operand.tokens
  | .or left word right => left.tokens ++ word.1 :: right.tokens

def AndPhrase.tokens : AndPhrase → List Token
  | .one operand => operand.tokens
  | .and left word right => left.tokens ++ word.1 :: right.tokens

def PrimaryPhrase.tokens : PrimaryPhrase → List Token
  | .condition c => Phrase.tokens c
  | .group opening inner closing => opening.1 :: (inner.tokens ++ [closing.1])

end

mutual

def OrPhrase.predicate : OrPhrase → Predicate
  | .one operand => operand.predicate
  | .or left _ right => .or left.predicate right.predicate

def AndPhrase.predicate : AndPhrase → Predicate
  | .one operand => operand.predicate
  | .and left _ right => .and left.predicate right.predicate

def PrimaryPhrase.predicate : PrimaryPhrase → Predicate
  | .condition c => .condition (ConditionPhrase.condition c)
  | .group _ inner _ => inner.predicate

end

instance : Phrase OrPhrase := ⟨OrPhrase.tokens⟩

instance : Phrase AndPhrase := ⟨AndPhrase.tokens⟩

instance : Phrase PrimaryPhrase := ⟨PrimaryPhrase.tokens⟩

abbrev ReturnsPhrase : Type :=
  Separated "," (EntityPhrase (isKind .ident)) ×
    Option (Keyword "SKIP" × Integer Numeral.readUInt64?) ×
    Option (Keyword "LIMIT" × Integer Numeral.readUInt64?)

def ReturnsPhrase.returns : ReturnsPhrase → Returns
  | (items, skip, limit) =>
    ⟨items.items EntityPhrase.entity, skip.map (·.2.meaning), limit.map (·.2.meaning)⟩

abbrev QueryPhrase : Type :=
  Option (Keyword "USE" × OfKind .str) × Repeated (Keyword "MATCH" × PatternPhrase) ×
    Option (Keyword "WHERE" × OrPhrase) × Keyword "RETURN" × ReturnsPhrase

def QueryPhrase.query : QueryPhrase → Query
  | (page, patterns, predicate, _, returns) =>
    { page := page.map (·.2.1.text)
      patterns := PatternPhrase.pattern patterns.1.2 :: patterns.2.map fun x => x.2.pattern
      predicate := predicate.map (·.2.predicate)
      returns := ReturnsPhrase.returns returns }

end PageGraph.Query
