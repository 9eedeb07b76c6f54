import PageGraph.Json
import PageGraph.Numeral

namespace PageGraph.Json

def isBlank (c : Char) : Bool :=
  c = ' ' || c = '\n' || c = '\t' || c = '\r'

def skipBlank (cs : List Char) : List Char :=
  cs.dropWhile isBlank

def unit? (a b c d : Char) : Option Nat := do
  let a ← Numeral.hexDigit? a
  let b ← Numeral.hexDigit? b
  let c ← Numeral.hexDigit? c
  let d ← Numeral.hexDigit? d
  return ((a * 16 + b) * 16 + c) * 16 + d

def simpleEscape? (c : Char) : Option Char :=
  if c = '"' || c = '\\' || c = '/' then some c
  else if c = 'b' then some '\x08'
  else if c = 'f' then some '\x0c'
  else if c = 'n' then some '\n'
  else if c = 'r' then some '\r'
  else if c = 't' then some '\t'
  else none

def isHighSurrogate (u : Nat) : Bool :=
  0xD800 ≤ u && u < 0xDC00

def isLowSurrogate (u : Nat) : Bool :=
  0xDC00 ≤ u && u < 0xE000

def joinSurrogates (high low : Nat) : Char :=
  Char.ofNat (0x10000 + (high - 0xD800) * 0x400 + (low - 0xDC00))

def readString : List Char → Option (Option (List Char) × List Char)
  | [] => none
  | '"' :: cs => some (some [], cs)
  | '\\' :: 'u' :: a :: b :: c :: d :: '\\' :: 'u' :: a' :: b' :: c' :: d' :: cs => do
    let u ← unit? a b c d
    let low := unit? a' b' c' d'
    if isHighSurrogate u && low.any isLowSurrogate then
      let (text, rest) ← readString cs
      return (text.map (joinSurrogates u (low.getD 0) :: ·), rest)
    else
      let (text, rest) ← readString ('\\' :: 'u' :: a' :: b' :: c' :: d' :: cs)
      if isHighSurrogate u || isLowSurrogate u then return (none, rest)
      return (text.map (Char.ofNat u :: ·), rest)
  | '\\' :: 'u' :: a :: b :: c :: d :: cs => do
    let u ← unit? a b c d
    let (text, rest) ← readString cs
    if isHighSurrogate u || isLowSurrogate u then return (none, rest)
    return (text.map (Char.ofNat u :: ·), rest)
  | '\\' :: e :: cs => do
    let e ← simpleEscape? e
    let (text, rest) ← readString cs
    return (text.map (e :: ·), rest)
  | c :: cs =>
    if c = '\\' || c.toNat < 0x20 then none
    else do
      let (text, rest) ← readString cs
      return (text.map (c :: ·), rest)

def readDigits (cs : List Char) : Option (List Char × List Char) :=
  let ds := cs.takeWhile Char.isDigit
  if ds.isEmpty then none else some (ds, cs.dropWhile Char.isDigit)

def readWhole : List Char → Option (List Char × List Char)
  | '0' :: cs => if cs.head?.any Char.isDigit then none else some (['0'], cs)
  | cs => readDigits cs

def readFraction : List Char → Option (List Char × List Char)
  | '.' :: cs => do
    let (ds, cs) ← readDigits cs
    return ('.' :: ds, cs)
  | cs => some ([], cs)

def readExponent : List Char → Option (List Char × List Char)
  | e :: cs =>
    if e = 'e' || e = 'E' then
      let (sign, cs) := match cs with
        | '+' :: cs => (['+'], cs)
        | '-' :: cs => (['-'], cs)
        | cs => ([], cs)
      (readDigits cs).map fun (ds, cs) => (e :: sign ++ ds, cs)
    else some ([], e :: cs)
  | [] => some ([], [])

def readNumber (cs : List Char) : Option (Json × List Char) := do
  let (sign, cs) := match cs with
    | '-' :: cs => (['-'], cs)
    | cs => ([], cs)
  let (whole, cs) ← readWhole cs
  let (fraction, cs) ← readFraction cs
  let (exponent, cs) ← readExponent cs
  return (.number (String.ofList (sign ++ whole ++ fraction ++ exponent)), cs)

mutual

/-- A value at the head of the text, blanks before it skipped. The first argument bounds the number
of nested or neighbouring values; the length of the text is always enough. -/
def readValue : Nat → List Char → Option (Json × List Char)
  | 0, _ => none
  | n + 1, cs =>
    match skipBlank cs with
    | 'n' :: 'u' :: 'l' :: 'l' :: cs => some (.null, cs)
    | 't' :: 'r' :: 'u' :: 'e' :: cs => some (.bool true, cs)
    | 'f' :: 'a' :: 'l' :: 's' :: 'e' :: cs => some (.bool false, cs)
    | '"' :: cs => do
      let (text, cs) ← readString cs
      match text with
      | some text => return (.string (String.ofList text), cs)
      | none => return (.unpaired, cs)
    | '[' :: cs =>
      match skipBlank cs with
      | ']' :: cs => some (.array [], cs)
      | cs => do
        let (items, cs) ← readItems n cs
        return (.array items, cs)
    | '\x7b' :: cs =>
      match skipBlank cs with
      | '\x7d' :: cs => some (.object [], cs)
      | cs => do
        let (fields, cs) ← readFields n cs
        match fields with
        | some fields => return (.object fields, cs)
        | none => return (.unpaired, cs)
    | cs => readNumber cs

def readItems : Nat → List Char → Option (List Json × List Char)
  | 0, _ => none
  | n + 1, cs => do
    let (item, cs) ← readValue n cs
    match skipBlank cs with
    | ',' :: cs => do
      let (items, cs) ← readItems n cs
      return (item :: items, cs)
    | ']' :: cs => return ([item], cs)
    | _ => none

def readFields : Nat → List Char → Option (Option (List (String × Json)) × List Char)
  | 0, _ => none
  | n + 1, cs => do
    match skipBlank cs with
    | '"' :: cs => do
      let (name, cs) ← readString cs
      match skipBlank cs with
      | ':' :: cs => do
        let (value, cs) ← readValue n cs
        let field := name.map fun name => (String.ofList name, value)
        match skipBlank cs with
        | ',' :: cs => do
          let (fields, cs) ← readFields n cs
          return (field.bind fun field => fields.map (field :: ·), cs)
        | '\x7d' :: cs => return (field.map ([·]), cs)
        | _ => none
      | _ => none
    | _ => none

end

def parse? (s : String) : Option Json := do
  let (value, rest) ← readValue (s.length + 1) s.toList
  if (skipBlank rest).isEmpty then some value else none

end PageGraph.Json
