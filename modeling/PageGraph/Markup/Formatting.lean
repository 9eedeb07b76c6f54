import PageGraph.Markup.Construction

/-!
Formatting that goes on across blocks: elements such as bold text are opened again after a block that
broke into them, and where their end tag comes inside of a block the page is rearranged, so that the
block holds formatting of its own.
-/

namespace PageGraph.Markup

namespace Construction

def reconstruct (c : Construction) : Construction :=
  let closed := c.formatting.takeWhile fun f => f.any fun f => !c.isOpen f.number
  if closed.isEmpty then c
  else
    let kept := { c with formatting := c.formatting.drop closed.length }
    (closed.reverse.filterMap id).foldl (fun c f =>
      let number := c.tree.size
      { c.insert f.tag f.attributes with
        formatting := some { f with number } :: c.formatting }) kept

def sameAttributes (a b : Attributes) : Bool :=
  a.length = b.length && a.all b.contains

/-- Drops the earliest of three equal entries, so that no formatting is opened more than three
times. -/
def limitEqual (tag : String) (attributes : Attributes) (entries : List (Option Formatting)) :
    List (Option Formatting) :=
  let latest := entries.takeWhile Option.isSome
  let isEqual := fun (f : Option Formatting) => f.any fun f =>
    f.tag = tag && sameAttributes f.attributes attributes
  if (latest.filter isEqual).length < 3 then entries
  else
    let reversed := latest.reverse
    (reversed.takeWhile (!isEqual ·) ++ (reversed.dropWhile (!isEqual ·)).drop 1).reverse
      ++ entries.dropWhile Option.isSome

def insertFormatting (c : Construction) (tag : String) (attributes : Attributes) : Construction :=
  let number := c.tree.size
  { c.insert tag attributes with
    formatting := some ⟨number, tag, attributes⟩ :: limitEqual tag attributes c.formatting }

def addMarker (c : Construction) : Construction :=
  { c with formatting := none :: c.formatting }

def clearToMarker (c : Construction) : Construction :=
  { c with formatting := (c.formatting.dropWhile Option.isSome).drop 1 }

def findFormatting? (c : Construction) (tag : String) : Option Formatting :=
  (c.formatting.takeWhile Option.isSome).findSome? fun f => f.filter (·.tag = tag)

def forget (c : Construction) (number : Nat) : Construction :=
  { c with formatting := c.formatting.filter fun f => f.all (·.number ≠ number) }

end Construction

structure Adoption where
  tree : Tree
  formatting : List (Option Formatting)
  kept : OpenElements
  moved : Nat
  mark : Option Nat

namespace Adoption

/-- Puts the block, with the formatting it has by now, into a fresh copy of the formatting element
around it. Elements without formatting, and all beyond the third, are passed over. -/
def wrap (block : Nat) (a : Adoption) (e : OpenElement) (count : Nat) : Adoption :=
  let isOfElement := fun (f : Option Formatting) => f.any (·.number = e.number)
  match (a.formatting.find? isOfElement).join with
  | none => a
  | some f =>
    if 3 < count then { a with formatting := a.formatting.filter (!isOfElement ·) }
    else
      let number := a.tree.size
      { tree := ((a.tree.add (.element f.tag f.attributes)).detach a.moved).append number a.moved
        formatting := a.formatting.map fun g =>
          if isOfElement g then some { f with number } else g
        kept := a.kept ++ [{ e with number }]
        moved := number
        mark := if a.moved = block then some number else a.mark }

def entered (a : Adoption) (closed : Nat) (new : Formatting) : List (Option Formatting) :=
  match a.mark with
  | none => a.formatting.map fun g => if g.any (·.number = closed) then some new else g
  | some mark =>
    (a.formatting.flatMap fun g => if g.any (·.number = mark) then [some new, g] else [g]).filter
      fun g => g.all (·.number ≠ closed)

end Adoption

namespace Construction

/-- Moves `block`, which is open inside of the formatting element `f`, out of it. The block then
holds a copy of the element around all that it held. Here `inner` is open inside of the element, and
`outer` outside of it. -/
def adopt (c : Construction) (f : Formatting) (block : OpenElement) (inner outer : OpenElements) :
    Construction :=
  let deeper := inner.takeWhile (·.number ≠ block.number)
  let between := (inner.dropWhile (·.number ≠ block.number)).drop 1
  let start : Adoption := ⟨c.tree, c.formatting, [], block.number, none⟩
  let a := (between.zipIdx 1).foldl (fun a e => a.wrap block.number e.1 e.2) start
  let old : OpenElement := ⟨f.number, .html, f.tag⟩
  let c := { c with
    tree := a.tree.detach a.moved
    elements := deeper ++ block :: a.kept ++ old :: outer }
  let c := match outer.head?.map c.placeIn with
    | none => c
    | some place => { c with tree := c.tree.put a.moved place }
  let number := c.tree.size
  let new : OpenElement := { old with number }
  { c with
    tree := ((c.tree.add (.element f.tag f.attributes)).moveInside block.number number).append
      block.number number
    formatting := a.entered f.number { f with number }
    elements := deeper ++ new :: block :: a.kept ++ outer }

def rearrange (tag : String) : Nat → Construction → Construction
  | 0, c => c
  | n + 1, c =>
    match c.findFormatting? tag with
    | none => c.endOther tag
    | some f =>
      if !c.isOpen f.number then c.forget f.number
      else if !c.elements.inScope (·.number = f.number) then c
      else
        let inner := c.elements.takeWhile (·.number ≠ f.number)
        let outer := (c.elements.dropWhile (·.number ≠ f.number)).drop 1
        match inner.reverse.find? (·.isSpecial) with
        | none => { c with elements := outer }.forget f.number
        | some block => rearrange tag n (c.adopt f block inner outer)

def endFormatting (c : Construction) (tag : String) : Construction :=
  if c.elements.topIs [tag] && (c.elements.head?.all fun e =>
      c.formatting.all fun f => f.all (·.number ≠ e.number)) then c.pop
  else rearrange tag 8 c

end Construction

end PageGraph.Markup
