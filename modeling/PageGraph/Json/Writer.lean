import PageGraph.Json

namespace PageGraph.Json

def escapeChar (c : Char) : List Char :=
  if c = '"' then ['\\', '"']
  else if c = '\\' then ['\\', '\\']
  else if c = '\x08' then ['\\', 'b']
  else if c = '\x0c' then ['\\', 'f']
  else if c = '\n' then ['\\', 'n']
  else if c = '\r' then ['\\', 'r']
  else if c = '\t' then ['\\', 't']
  else if c.toNat < 0x20 then
    ['\\', 'u', '0', '0'] ++ Nat.toDigits 16 (c.toNat / 16) ++ Nat.toDigits 16 (c.toNat % 16)
  else [c]

def literal (s : String) : String :=
  String.ofList ('"' :: s.toList.flatMap escapeChar ++ ['"'])

mutual

def render : Json → String
  | .null => "null"
  | .bool b => if b then "true" else "false"
  | .number n => n
  | .string s => literal s
  | .unpaired => "\"\\ufffd\""
  | .array items => "[" ++ ",".intercalate (renderItems items) ++ "]"
  | .object fields => "\x7b" ++ ",".intercalate (renderFields fields) ++ "\x7d"

def renderItems : List Json → List String
  | [] => []
  | item :: items => render item :: renderItems items

def renderFields : List (String × Json) → List String
  | [] => []
  | (name, value) :: fields => (literal name ++ ":" ++ render value) :: renderFields fields

end

def block (depth : Nat) (opening closing : String) (entries : List String) : String :=
  if entries.isEmpty then opening ++ closing
  else
    let margin := String.ofList (List.replicate (2 * (depth + 1)) ' ')
    opening ++ "\n" ++ ",\n".intercalate (entries.map (margin ++ ·)) ++ "\n"
      ++ String.ofList (List.replicate (2 * depth) ' ') ++ closing

mutual

def renderIndented (depth : Nat) : Json → String
  | .array items => block depth "[" "]" (indentedItems (depth + 1) items)
  | .object fields => block depth "\x7b" "\x7d" (indentedFields (depth + 1) fields)
  | value => render value

def indentedItems (depth : Nat) : List Json → List String
  | [] => []
  | item :: items => renderIndented depth item :: indentedItems depth items

def indentedFields (depth : Nat) : List (String × Json) → List String
  | [] => []
  | (name, value) :: fields =>
    (literal name ++ ": " ++ renderIndented depth value) :: indentedFields depth fields

end

end PageGraph.Json
