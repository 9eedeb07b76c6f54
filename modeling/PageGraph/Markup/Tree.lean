import PageGraph.Markup.Content

namespace PageGraph.Markup

inductive Part where
  | text (s : String)
  | comment (s : String)
  | element (tag : String) (attributes : List (String × String))
  deriving Repr

/-- A part and what lies next to it: the parts inside come last one first. -/
structure TreeEntry where
  part : Part
  around : Option Nat
  inside : List Nat
  deriving Repr

inductive Place where
  | endOf (i : Nat)
  | before (i : Nat)
  deriving Repr

structure Tree where
  entries : Array TreeEntry := #[]
  deriving Repr

namespace Tree

def size (t : Tree) : Nat :=
  t.entries.size

def around? (t : Tree) (i : Nat) : Option Nat :=
  t.entries[i]?.bind (·.around)

def inside (t : Tree) (i : Nat) : List Nat :=
  (t.entries[i]?.map (·.inside)).getD []

def isText (t : Tree) (i : Nat) : Bool :=
  match t.entries[i]? with
  | some ⟨.text _, _, _⟩ => true
  | _ => false

def modify (t : Tree) (i : Nat) (f : TreeEntry → TreeEntry) : Tree :=
  ⟨t.entries.modify i f⟩

def add (t : Tree) (p : Part) : Tree :=
  ⟨t.entries.push ⟨p, none, []⟩⟩

def append (t : Tree) (outer i : Nat) : Tree :=
  (t.modify outer fun e => { e with inside := i :: e.inside }).modify i fun e =>
    { e with around := some outer }

def insertBefore (t : Tree) (next i : Nat) : Tree :=
  match t.around? next with
  | none => t
  | some outer =>
    (t.modify outer fun e =>
      { e with inside := e.inside.takeWhile (· ≠ next)
          ++ next :: i :: (e.inside.dropWhile (· ≠ next)).drop 1 }).modify i fun e =>
      { e with around := some outer }

def put (t : Tree) (i : Nat) : Place → Tree
  | .endOf outer => t.append outer i
  | .before next => t.insertBefore next i

def previous? (t : Tree) : Place → Option Nat
  | .endOf outer => (t.inside outer).head?
  | .before next => do
    let outer ← t.around? next
    (((t.inside outer).dropWhile (· ≠ next)).drop 1).head?

def detach (t : Tree) (i : Nat) : Tree :=
  match t.around? i with
  | none => t
  | some outer =>
    (t.modify outer fun e => { e with inside := e.inside.erase i }).modify i fun e =>
      { e with around := none }

def moveInside (t : Tree) (source target : Nat) : Tree :=
  let moved := t.inside source
  let t := t.modify source fun e => { e with inside := [] }
  let t := t.modify target fun e => { e with inside := moved ++ e.inside }
  moved.foldl (fun t i => t.modify i fun e => { e with around := some target }) t

def putChar (t : Tree) (c : Char) (place : Place) : Tree :=
  match (t.previous? place).filter t.isText with
  | some i => t.modify i fun
    | ⟨.text s, around, inside⟩ => ⟨.text (s.push c), around, inside⟩
    | e => e
  | none =>
    let i := t.size
    (t.add (.text (String.singleton c))).put i place

def addAttributes (t : Tree) (i : Nat) (attributes : List (String × String)) : Tree :=
  t.modify i fun
    | ⟨.element tag own, around, inside⟩ =>
      ⟨.element tag (own ++ attributes.filter fun a => (own.lookup a.1).isNone), around, inside⟩
    | e => e

def content (t : Tree) : Nat → Nat → Content
  | 0, _ => .text ""
  | depth + 1, i =>
    match t.entries[i]? with
    | some ⟨.element tag attributes, _, inside⟩ =>
      .element tag attributes (inside.reverse.map (t.content depth))
    | some ⟨.text s, _, _⟩ => .text s
    | some ⟨.comment s, _, _⟩ => .comment s
    | none => .text ""

end Tree

end PageGraph.Markup
