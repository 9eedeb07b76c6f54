import PageGraph.Json
import PageGraph.Numeral

/-!
Reading typed values out of JSON values. A record comes as an object, in which unknown fields are
ignored and a known one may stand only once, or as an array of its fields in their order.
-/

namespace PageGraph.Json

def text? : Json → Option String
  | .string s => some s
  | _ => none

def bool? : Json → Option Bool
  | .bool b => some b
  | _ => none

def uint64? : Json → Option UInt64
  | .number literal =>
    ((Numeral.digits? literal.toList).filter (· < Nat.pow 2 64)).map Nat.toUInt64
  | _ => none

def list? (item? : Json → Option α) : Json → Option (List α)
  | .array items => items.mapM item?
  | _ => none

def nullable? (value? : Json → Option α) : Json → Option (Option α)
  | .null => some none
  | value => (value? value).map some

/-- The name of a constant: a string, or an object whose one field has that name and is null. -/
def constant? : Json → Option String
  | .string name => some name
  | .object [(name, .null)] => some name
  | _ => none

structure Record where
  positional : Bool
  fields : List (String × Json)

def record? (names : List String) : Json → Option Record
  | .object fields =>
    let known := fields.filter fun field => names.contains field.1
    if (known.map (·.1)).Nodup then some ⟨false, known⟩ else none
  | .array items =>
    if items.length ≤ names.length then some ⟨true, names.zip items⟩ else none
  | _ => none

namespace Record

def find? (r : Record) (name : String) : Option Json :=
  r.fields.lookup name

def required (r : Record) (name : String) (value? : Json → Option α) : Option α :=
  (r.find? name).bind value?

def defaulted (r : Record) (name : String) (value? : Json → Option α) (fallback : α) : Option α :=
  match r.find? name with
  | none => some fallback
  | some value => value? value

def optional (r : Record) (name : String) (value? : Json → Option α) : Option (Option α) :=
  match r.find? name with
  | none => if r.positional then none else some none
  | some value => nullable? value? value

end Record

end PageGraph.Json
