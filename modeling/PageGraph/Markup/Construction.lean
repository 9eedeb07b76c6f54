import PageGraph.Markup.OpenElements
import PageGraph.Markup.Token
import PageGraph.Markup.Tree

namespace PageGraph.Markup

inductive Mode where
  | initial
  | beforeHtml
  | beforeHead
  | inHead
  | afterHead
  | inBody
  | inText
  | inTable
  | inTableText
  | inCaption
  | inColumnGroup
  | inTableBody
  | inRow
  | inCell
  | inSelect
  | inSelectInTable
  | afterBody
  | afterAll
  deriving DecidableEq, Repr

structure Formatting where
  number : Nat
  tag : String
  attributes : Attributes

structure Construction where
  tree : Tree := {}
  elements : OpenElements := []
  mode : Mode := .initial
  resume : Mode := .inBody
  reading : Reading := .markup
  formatting : List (Option Formatting) := []
  loose : Bool := false
  skipLineFeed : Bool := false
  head : Option OpenElement := none
  form : Option Nat := none
  fostering : Bool := false
  tableText : List Char := []

namespace Construction

def onElements (c : Construction) (f : OpenElements → OpenElements) : Construction :=
  { c with elements := f c.elements }

def pop (c : Construction) : Construction :=
  c.onElements (·.drop 1)

def switch (c : Construction) (mode : Mode) : Construction :=
  { c with mode }

def isOpen (c : Construction) (number : Nat) : Bool :=
  c.elements.any (·.number = number)

def placeIn (c : Construction) (e : OpenElement) : Place :=
  if c.fostering && e.isOneOf fosteringElements then
    match c.elements.dropWhile (!·.isHtml "table") with
    | table :: outer :: _ =>
      if (c.tree.around? table.number).isSome then .before table.number else .endOf outer.number
    | _ => .endOf 0
  else .endOf e.number

def insertPart (c : Construction) (p : Part) : Construction :=
  match c.elements.head?.map c.placeIn with
  | none => { c with tree := c.tree.add p }
  | some place =>
    let number := c.tree.size
    { c with tree := (c.tree.add p).put number place }

def openElement (c : Construction) (space : Space) (tag : String) (attributes : Attributes) :
    Construction :=
  let number := c.tree.size
  (c.insertPart (.element tag attributes)).onElements (⟨number, space, tag⟩ :: ·)

def insert (c : Construction) (tag : String) (attributes : Attributes) : Construction :=
  c.openElement .html tag attributes

def insertVoid (c : Construction) (tag : String) (attributes : Attributes) : Construction :=
  c.insertPart (.element tag attributes)

def insertChar (c : Construction) (ch : Char) : Construction :=
  match c.elements.head?.map c.placeIn with
  | none => c
  | some place => { c with tree := c.tree.putChar ch place }

def insertComment (c : Construction) (s : String) : Construction :=
  if c.elements.isEmpty then c else c.insertPart (.comment s)

def insertOuterComment (c : Construction) (s : String) : Construction :=
  let number := c.tree.size
  { c with tree := (c.tree.add (.comment s)).append 0 number }

def insertPlain (c : Construction) (tag : String) (attributes : Attributes) (reading : Reading) :
    Construction :=
  { c.insert tag attributes with mode := .inText, resume := c.mode, reading }

def closeParagraph (c : Construction) : Construction :=
  c.onElements .closeParagraph

def closeInScope (c : Construction) (tag : String) : Construction :=
  if c.elements.inScope (·.isHtml tag) then
    c.onElements fun es => (es.generateImplied []).popThrough (·.isHtml tag)
  else c

/-- An end tag for which there is no rule of its own: it closes the innermost element of its name,
unless a special element lies inside of that one. -/
def endOther (c : Construction) (tag : String) : Construction :=
  match c.elements.find? fun e => e.isHtml tag || e.isSpecial with
  | some e =>
    if e.isHtml tag then
      c.onElements fun es => (es.generateImplied [tag]).popThrough (·.number = e.number)
    else c
  | none => c

def startHtml (c : Construction) (attributes : Attributes) : Construction :=
  { c with tree := c.tree.addAttributes 0 attributes }

def modeOf (hasHead : Bool) : OpenElements → Mode
  | [] => .inBody
  | e :: es =>
    if e.isHtml "select" then
      if es.any (·.isHtml "table") then .inSelectInTable else .inSelect
    else if e.isOneOf ["td", "th"] && !es.isEmpty then .inCell
    else if e.isHtml "tr" then .inRow
    else if e.isOneOf tableSections then .inTableBody
    else if e.isHtml "caption" then .inCaption
    else if e.isHtml "colgroup" then .inColumnGroup
    else if e.isHtml "table" then .inTable
    else if e.isHtml "head" && !es.isEmpty then .inHead
    else if e.isHtml "body" then .inBody
    else if e.isHtml "html" then if hasHead then .afterHead else .beforeHead
    else modeOf hasHead es

def resetMode (c : Construction) : Construction :=
  c.switch (modeOf c.head.isSome c.elements)

/-- The page as it stands. No part lies deeper than there are parts. -/
def document (c : Construction) : Document :=
  match c.tree.content c.tree.size 0 with
  | .element _ attributes children => ⟨attributes, children⟩
  | _ => ⟨[], []⟩

end Construction

end PageGraph.Markup
