import PageGraph.Text.Extending
import PageGraph.Text.Printable

namespace PageGraph.Text

def hexDigits (n : Nat) : List Char :=
  Nat.toDigits 16 n

def escapeChar (quote : Char) (c : Char) : List Char :=
  if c = '\x00' then ['\\', '0']
  else if c = '\t' then ['\\', 't']
  else if c = '\r' then ['\\', 'r']
  else if c = '\n' then ['\\', 'n']
  else if c = '\\' then ['\\', '\\']
  else if c = quote then ['\\', c]
  else if isExtending c || !isPrintable c then
    ['\\', 'u', '\x7b'] ++ hexDigits c.toNat ++ ['\x7d']
  else [c]

def quoteChars (cs : List Char) : List Char :=
  '"' :: cs.flatMap (escapeChar '"') ++ ['"']

def quote (s : String) : String :=
  String.ofList (quoteChars s.toList)

def quoteChar (c : Char) : String :=
  String.ofList ('\'' :: escapeChar '\'' c ++ ['\''])

def quoteList (xs : List String) : String :=
  "[" ++ ", ".intercalate (xs.map quote) ++ "]"

end PageGraph.Text
