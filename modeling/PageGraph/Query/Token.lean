import PageGraph.Text.Ascii
import PageGraph.Text.Blank
import PageGraph.Text.Digit
import PageGraph.Text.Quoted

/-!
The tokens of a query. Tokens and blanks tile the text: at every position the longest lexeme of the
one class that can start there is taken, and where none can start the text is refused.
-/

namespace PageGraph.Query

inductive TokenKind where
  | ident
  | str
  | number
  | punct
  deriving DecidableEq, Repr

/-- A token at a byte offset. The text of a string is what stands between its quotes, escapes
resolved; all others have the text as it is written. -/
structure Token where
  kind : TokenKind
  text : String
  offset : Nat
  deriving DecidableEq, Repr

def Token.isPunct (t : Token) (p : String) : Bool :=
  t.kind = .punct && t.text = p

def Token.isKeyword (t : Token) (word : String) : Bool :=
  t.kind = .ident && Text.sameIgnoringCase t.text word

inductive SyntaxFault where
  | unterminatedString
  | unexpectedCharacter (c : Char)
  | expected (what : String) (found : Option String)
  | notAnInteger (found : String)
  | trailing (found : String)
  deriving DecidableEq, Repr

structure SyntaxError where
  fault : SyntaxFault
  offset : Nat
  deriving DecidableEq, Repr

def SyntaxFault.detail : SyntaxFault → String
  | .unterminatedString => "unterminated string"
  | .unexpectedCharacter c => "unexpected character " ++ Text.quoteChar c
  | .expected what (some found) => "expected " ++ what ++ ", found " ++ Text.quote found
  | .expected what none => "expected " ++ what ++ ", found end of query"
  | .notAnInteger found => "expected integer, found " ++ Text.quote found
  | .trailing found => "unexpected " ++ Text.quote found ++ " after RETURN clause"

def SyntaxError.message (e : SyntaxError) : String :=
  "Parse error at offset " ++ toString e.offset ++ ": " ++ e.fault.detail

def byteLength (cs : List Char) : Nat :=
  cs.foldr (fun c n => c.utf8Size + n) 0

def isIdentStart (c : Char) : Bool :=
  c.isAlpha || c = '_'

def isIdentRest (c : Char) : Bool :=
  c.isAlphanum || c = '_'

def isPunctStart (c : Char) : Bool :=
  "()[]\x7b\x7d:,.|*<>=-".toList.contains c

def bodyLength? (quote : Char) : List Char → Option Nat
  | [] => none
  | '\\' :: c :: cs => if c = '\n' then none else (bodyLength? quote cs).map (· + 2)
  | c :: cs =>
    if c = quote then some 1
    else if c = '\\' then none
    else (bodyLength? quote cs).map (· + 1)

def digitRun (cs : List Char) : Nat :=
  (cs.takeWhile Text.isDigit).length

def fractionLength : List Char → Nat
  | '.' :: cs => if digitRun cs = 0 then 0 else 1 + digitRun cs
  | _ => 0

def exponentLength : List Char → Nat
  | e :: s :: cs =>
    if e = 'e' || e = 'E' then
      if s = '+' || s = '-' then
        if digitRun cs = 0 then 0 else 2 + digitRun cs
      else if digitRun (s :: cs) = 0 then 0
      else 1 + digitRun (s :: cs)
    else 0
  | _ => 0

def numberLength (cs : List Char) : Nat :=
  let whole := digitRun cs
  let fraction := fractionLength (cs.drop whole)
  whole + fraction + exponentLength (cs.drop (whole + fraction))

def punctLength : List Char → Nat
  | '.' :: '.' :: _ => 2
  | '=' :: '=' :: _ => 2
  | '<' :: '>' :: _ => 2
  | '<' :: '=' :: _ => 2
  | '>' :: '=' :: _ => 2
  | _ => 1

/-- The class and the length of the lexeme at the head of the text; `none` as class means blanks. -/
def lexeme? : List Char → Option (Option TokenKind × Nat)
  | [] => none
  | c :: cs =>
    if Text.isBlank c then some (none, 1 + (cs.takeWhile Text.isBlank).length)
    else if c = '"' || c = '\'' then (bodyLength? c cs).map fun n => (some .str, 1 + n)
    else if Text.isDigit c then some (some .number, numberLength (c :: cs))
    else if isIdentStart c then some (some .ident, 1 + (cs.takeWhile isIdentRest).length)
    else if isPunctStart c then some (some .punct, punctLength (c :: cs))
    else none

def unescapeChar (c : Char) : Char :=
  if c = 'n' then '\n' else if c = 't' then '\t' else if c = 'r' then '\r' else c

def unescape : List Char → List Char
  | [] => []
  | '\\' :: c :: cs => unescapeChar c :: unescape cs
  | c :: cs => c :: unescape cs

def Token.ofLexeme (kind : TokenKind) (lexeme : List Char) (offset : Nat) : Token :=
  match kind with
  | .str => ⟨.str, String.ofList (unescape (lexeme.drop 1).dropLast), offset⟩
  | kind => ⟨kind, String.ofList lexeme, offset⟩

def faultAt (c : Char) : SyntaxFault :=
  if c = '"' || c = '\'' then .unterminatedString else .unexpectedCharacter c

theorem digitRun_pos (c : Char) (cs : List Char) (h : Text.isDigit c = true) :
    0 < digitRun (c :: cs) := by
  simp [digitRun, h]

theorem punctLength_pos (cs : List Char) : 0 < punctLength cs := by
  unfold punctLength
  split <;> decide

theorem lexeme?_pos (cs : List Char) (kind : Option TokenKind) (n : Nat)
    (h : lexeme? cs = some (kind, n)) : 0 < n := by
  unfold lexeme? at h
  split at h
  · simp at h
  · next c cs =>
    split at h
    · simp only [Option.some.injEq, Prod.mk.injEq] at h
      omega
    split at h
    · obtain ⟨m, _, hm⟩ := Option.map_eq_some_iff.mp h
      simp only [Prod.mk.injEq] at hm
      omega
    split at h
    · next hd =>
      simp only [Option.some.injEq, Prod.mk.injEq, numberLength] at h
      have := digitRun_pos c cs hd
      omega
    split at h
    · simp only [Option.some.injEq, Prod.mk.injEq] at h
      omega
    split at h
    · simp only [Option.some.injEq, Prod.mk.injEq] at h
      exact h.2 ▸ punctLength_pos (c :: cs)
    · simp at h

def tokensFrom (offset : Nat) (cs : List Char) : Except SyntaxError (List Token) :=
  match cs with
  | [] => .ok []
  | c :: rest =>
    match _h : lexeme? (c :: rest) with
    | none => .error ⟨faultAt c, offset⟩
    | some (kind, n) => do
      let lexeme := (c :: rest).take n
      let tokens ← tokensFrom (offset + byteLength lexeme) ((c :: rest).drop n)
      match kind with
      | none => return tokens
      | some kind => return Token.ofLexeme kind lexeme offset :: tokens
termination_by cs.length
decreasing_by
  have := lexeme?_pos _ _ _ ‹_›
  simp only [List.length_drop, List.length_cons]
  omega

def tokenize (text : String) : Except SyntaxError (List Token) :=
  tokensFrom 0 text.toList

end PageGraph.Query
