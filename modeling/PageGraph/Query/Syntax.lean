import PageGraph.Text.Quoted

namespace PageGraph.Query

inductive Direction where
  | right
  | left
  | both
  deriving DecidableEq, Repr

structure HopRange where
  min : UInt32
  max : Option UInt32
  deriving DecidableEq, Repr

structure Entity where
  var : String
  property : Option String
  deriving DecidableEq, Repr

inductive Value where
  | str (s : String)
  | number (literal : String)
  | bool (b : Bool)
  | null
  deriving DecidableEq, Repr

inductive Operator where
  | eq
  | neq
  | gt
  | lt
  | gte
  | lte
  | is
  | contains
  deriving DecidableEq, Repr

inductive Operand where
  | value (v : Value)
  | entity (e : Entity)
  deriving DecidableEq, Repr

structure Condition where
  entity : Entity
  op : Operator
  operand : Operand
  deriving DecidableEq, Repr

inductive Predicate where
  | condition (c : Condition)
  | and (left right : Predicate)
  | or (left right : Predicate)
  deriving DecidableEq, Repr

structure NodePattern where
  var : Option String
  labels : List String
  properties : List (String × Value)
  deriving DecidableEq, Repr

structure EdgePattern where
  var : Option String
  type : Option String
  direction : Direction
  hops : Option HopRange
  deriving DecidableEq, Repr

/-- Nodes with edges between them: in a written pattern, one more node than edges. -/
structure Pattern where
  nodes : List NodePattern
  edges : List EdgePattern
  deriving DecidableEq, Repr

structure Returns where
  items : List Entity
  skip : Option UInt64
  limit : Option UInt64
  deriving DecidableEq, Repr

end Query

structure Query where
  page : Option String
  patterns : List Query.Pattern
  predicate : Option Query.Predicate
  returns : Query.Returns
  deriving DecidableEq, Repr

namespace Query

def Entity.show (e : Entity) : String :=
  match e.property with
  | some property => e.var ++ "." ++ property
  | none => e.var

def Value.show : Value → String
  | .str s => Text.quote s
  | .number literal => literal
  | .bool b => if b then "TRUE" else "FALSE"
  | .null => "NULL"

def Operator.show : Operator → String
  | .eq => "="
  | .neq => "<>"
  | .gt => ">"
  | .lt => "<"
  | .gte => ">="
  | .lte => "<="
  | .is => "IS"
  | .contains => "CONTAINS"

def Operand.show : Operand → String
  | .value v => v.show
  | .entity e => e.show

def Predicate.conditions : Predicate → List Condition
  | .condition c => [c]
  | .and l r => l.conditions ++ r.conditions
  | .or l r => l.conditions ++ r.conditions

end PageGraph.Query
