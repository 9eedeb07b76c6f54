namespace PageGraph

inductive Json where
  | null
  | bool (b : Bool)
  | number (literal : String)
  | string (s : String)
  /-- A string literal whose escapes hold an unpaired surrogate, so that it stands for no text, or an
  object with such a name. -/
  | unpaired
  | array (items : List Json)
  | object (fields : List (String × Json))
  deriving Repr

namespace Json

def ofNat (n : Nat) : Json :=
  .number (toString n)

def ofOption (f : α → Json) : Option α → Json
  | none => .null
  | some a => f a

def ofList (f : α → Json) (xs : List α) : Json :=
  .array (xs.map f)

def ofTexts (xs : List String) : Json :=
  ofList .string xs

def optionalField (name : String) (f : α → Json) : Option α → List (String × Json)
  | none => []
  | some a => [(name, f a)]

end Json

end PageGraph
