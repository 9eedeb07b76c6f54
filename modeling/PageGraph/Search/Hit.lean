import PageGraph.Query.Plan
import PageGraph.Search.Score
import PageGraph.Text.LowerCase
import PageGraph.Word

namespace PageGraph

def occurrence? (part : List Char) : List Char → Option Nat
  | [] => if part.isEmpty then some 0 else none
  | c :: cs => if part.isPrefixOf (c :: cs) then some 0 else (occurrence? part cs).map (· + 1)

structure Hit where
  score : Score
  snippet : String
  deriving DecidableEq, Repr

namespace Hit

def score? (kind : MatchKind) (part text : List Char) : Option Score :=
  match kind with
  | .exact => if text = part then some .one else none
  | .contains =>
    if part.isEmpty || (occurrence? part text).isNone then none
    else some (.ofRatio part.length text.length)

def locate? (kind : MatchKind) (part text : List Char) : Option (Score × Nat) := do
  let score ← score? kind part text
  let place ← occurrence? part text
  return (score, place)

/-- The characters of a text from `window` in front of the given place to `window` behind what
stands there. In front the window is cut at the start of the text; behind, its end has to be a
word. -/
def excerpt (text : List Char) (place length : Nat) (window : UInt64) :
    Except Fault (List Char) := do
  let first := place - window.toNat
  let stop ← Word.add place length
  let last ← Word.add stop window.toNat
  let count ← Word.sub last first
  return (text.drop first).take count

def snippetOf (text : List Char) (place length : Nat) (window : UInt64) : Except Fault String :=
  (excerpt text place length window).map fun e => "..." ++ String.ofList e ++ "..."

def foldCase (ignoreCase : Bool) (s : String) : List Char :=
  (if ignoreCase then Text.lower s else s).toList

def find? (kind : MatchKind) (ignoreCase : Bool) (window : UInt64) (query text : String) :
    Except Fault (Option Hit) :=
  let part := foldCase ignoreCase query
  let text := foldCase ignoreCase text
  match locate? kind part text with
  | none => .ok none
  | some (score, place) =>
    (snippetOf text place part.length window).map fun snippet => some ⟨score, snippet⟩

end Hit

end PageGraph
