import PageGraph.Markup.Rules.Table

namespace PageGraph.Markup

namespace Construction

def byMode (c : Construction) (t : Token) : Outcome :=
  match c.mode with
  | .initial => c.initial t
  | .beforeHtml => c.beforeHtml t
  | .beforeHead => c.beforeHead t
  | .inHead => c.inHead t
  | .afterHead => c.afterHead t
  | .inBody => c.inBody t
  | .inText => c.inText t
  | .inTable => c.inTable t
  | .inTableText => c.inTableText t
  | .inCaption => c.inCaption t
  | .inColumnGroup => c.inColumnGroup t
  | .inTableBody => c.inTableBody t
  | .inRow => c.inRow t
  | .inCell => c.inCell t
  | .inSelect => c.inSelect t
  | .inSelectInTable => c.inSelectInTable t
  | .afterBody => c.afterBody t
  | .afterAll => c.afterAll t

def isForeign (c : Construction) (t : Token) : Bool :=
  match c.elements with
  | [] => false
  | e :: _ =>
    e.space ≠ .html && match t with
      | .stop => false
      | .char _ => !e.isMathText && !e.isIntegrationPoint
      | .startTag tag _ _ =>
        !e.isIntegrationPoint && !(e.isMathText && tag ≠ "mglyph" && tag ≠ "malignmark")
          && !(e.space = .math && e.tag = "annotation-xml" && tag = "svg")
      | _ => true

def breakOut (c : Construction) : Construction :=
  c.onElements (·.dropWhile (!·.isOrdinary))

def breaksOut (tag : String) (attributes : Attributes) : Bool :=
  breakoutElements.contains tag || (tag = "font" &&
    ["color", "face", "size"].any fun name => (attributes.lookup name).isSome)

def endForeign (c : Construction) (tag : String) : Outcome :=
  let isNamed := fun (e : OpenElement) => Text.sameIgnoringCase e.tag tag
  let inner := c.elements.dropLast
  match inner.head?.filter isNamed, (inner.drop 1).find? fun e => e.space = .html || isNamed e with
  | some _, _ => .done c.pop
  | none, some e =>
    if e.space = .html then c.byMode (.endTag tag)
    else .done (c.onElements (.popThrough (·.number = e.number)))
  | none, none => .done c

def inForeign (c : Construction) : Token → Outcome
  | .char ch => .done (c.insertChar (if ch = '\x00' then '\ufffd' else ch))
  | .comment s => .done (c.insertComment s)
  | .startTag tag attributes selfClosing =>
    if breaksOut tag attributes then c.breakOut.byMode (.startTag tag attributes selfClosing)
    else
      let space := (c.elements.head?.map (·.space)).getD .html
      let tag := if space = .svg then svgName tag else tag
      .done (c.startForeign space tag attributes selfClosing)
  | .endTag tag =>
    if tag = "br" || tag = "p" then c.breakOut.byMode (.endTag tag) else c.endForeign tag
  | _ => .done c

def apply : Nat → Construction → Token → Construction
  | 0, c, _ => c
  | n + 1, c, t =>
    match if c.isForeign t then c.inForeign t else c.byMode t with
    | .done c => c
    | .again c => apply n c t

/-- Applies the next token. Every time that a token is looked at again an element has been closed or
the page has advanced by a mode, of which there are not many. -/
def feed (c : Construction) (t : Token) : Construction :=
  let skip := c.skipLineFeed
  let c := { c with skipLineFeed := false }
  match t with
  | .fault => c
  | .doctype d =>
    if c.mode = .initial then { c with mode := .beforeHtml, loose := d.isLoose } else c
  | t => if skip && t = .char '\n' then c else apply (2 * c.elements.length + 32) c t

/-- Reads the rest of a page. Every step takes at least one character, so that the number of
characters is enough of them. -/
def read : Nat → Construction → List Char → Construction
  | 0, c, _ => c
  | _, c, [] => c
  | n + 1, c, cs =>
    let (tokens, cs) := readTokens c.reading (c.elements.head?.any (·.space ≠ .html)) cs
    read n (tokens.foldl feed c) cs

end Construction

def Document.parse (text : String) : Document :=
  let cs := unifyLines (skipByteOrderMark text.toList)
  ((Construction.read cs.length {} cs).feed .stop).document

end PageGraph.Markup
