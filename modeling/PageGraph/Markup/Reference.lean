import PageGraph.Markup.Reference.Names
import PageGraph.Numeral

namespace PageGraph.Markup

def readCode (hex : List Char) : Nat :=
  hex.foldl (fun n c => 16 * n + (Numeral.hexDigit? c).getD 0) 0

def readEntry (entry : String) : String × List Char :=
  match entry.splitOn "=" with
  | [name, codes] => (name, (codes.splitOn "-").map fun code => Char.ofNat (readCode code.toList))
  | _ => (entry, [])

def namedCharacters : List (String × List Char) :=
  (nameTable.flatMap (·.splitOn " ")).map readEntry

def bareNames : List (List Char) :=
  (bareNameTable.flatMap (·.splitOn " ")).map (·.toList)

def legacyCodes : List Nat := [
  0x20AC, 0, 0x201A, 0x192, 0x201E, 0x2026, 0x2020, 0x2021, 0x2C6, 0x2030, 0x160, 0x2039, 0x152, 0,
  0x17D, 0, 0, 0x2018, 0x2019, 0x201C, 0x201D, 0x2022, 0x2013, 0x2014, 0x2DC, 0x2122, 0x161, 0x203A,
  0x153, 0, 0x17E, 0x178]

def numbered (n : Nat) : Char :=
  if n = 0 || 0x10FFFF < n || (0xD800 ≤ n && n < 0xE000) then '\ufffd'
  else if 0x80 ≤ n && n < 0xA0 then
    let code := legacyCodes.getD (n - 0x80) 0
    Char.ofNat (if code = 0 then n else code)
  else Char.ofNat n

def dropSemicolon : List Char → List Char
  | ';' :: cs => cs
  | cs => cs

def numberMark : List Char → List Char × Nat × List Char
  | 'x' :: cs => (['x'], 16, cs)
  | 'X' :: cs => (['X'], 16, cs)
  | cs => ([], 10, cs)

def isDigitOf (base : Nat) (c : Char) : Bool :=
  (Numeral.hexDigit? c).any (· < base)

def readNumbered (cs : List Char) : List Char × List Char :=
  let (mark, base, digits) := numberMark cs
  let run := digits.takeWhile (isDigitOf base)
  if run.isEmpty then ('&' :: '#' :: mark, digits)
  else
    let n := run.foldl (fun n c => base * n + (Numeral.hexDigit? c).getD 0) 0
    ([numbered n], dropSemicolon (digits.dropWhile (isDigitOf base)))

def isUnclosedNumber : List Char → Bool
  | '#' :: cs =>
    let (_, base, digits) := numberMark cs
    digits.head?.any (isDigitOf base) && (digits.dropWhile (isDigitOf base)).head? ≠ some ';'
  | _ => false

def barePrefix? (run : List Char) : Option (List Char) :=
  (bareNames.filter (·.isPrefixOf run)).foldl
    (fun best name => if (best.map List.length).getD 0 < name.length then some name else best) none

/-- A reference by name. In an attribute, a name without semicolon that goes on with a letter, a
digit or an equals sign is none. -/
def readNamed (inAttribute : Bool) (cs : List Char) : List Char × List Char :=
  let run := cs.takeWhile Char.isAlphanum
  let rest := cs.dropWhile Char.isAlphanum
  let closed := if rest.head? = some ';' then namedCharacters.lookup (String.ofList run) else none
  match closed with
  | some chars => (chars, rest.drop 1)
  | none =>
    match barePrefix? run with
    | none => (['&'], cs)
    | some name =>
      let rest := cs.drop name.length
      if inAttribute && rest.head?.any (fun c => c = '=' || c.isAlphanum) then (['&'], cs)
      else ((namedCharacters.lookup (String.ofList name)).getD [], rest)

def readReference (inAttribute : Bool) : List Char → List Char × List Char
  | '#' :: cs => readNumbered cs
  | cs => readNamed inAttribute cs

end PageGraph.Markup
