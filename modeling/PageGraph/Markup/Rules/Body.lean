import PageGraph.Markup.Formatting
import PageGraph.Markup.Rules.Head

namespace PageGraph.Markup

namespace Construction

def startBlock (c : Construction) (tag : String) (attributes : Attributes) : Construction :=
  c.closeParagraph.insert tag attributes

def startHeading (c : Construction) (tag : String) (attributes : Attributes) : Construction :=
  let c := c.closeParagraph
  let c := if c.elements.topIs headingElements then c.pop else c
  c.insert tag attributes

def startFormattingElement (c : Construction) (tag : String) (attributes : Attributes) :
    Construction :=
  let c :=
    if tag = "a" then
      match c.findFormatting? tag with
      | none => c
      | some f => ((c.endFormatting tag).forget f.number).onElements (.remove f.number)
    else if tag = "nobr" && c.reconstruct.elements.inScope (·.isHtml tag) then
      c.reconstruct.endFormatting tag
    else c
  c.reconstruct.insertFormatting tag attributes

def startItem (c : Construction) (tags : List String) (tag : String) (attributes : Attributes) :
    Construction :=
  let stops := fun (e : OpenElement) =>
    e.isOneOf tags || (e.isSpecial && !e.isOneOf ["address", "div", "p"])
  let c := match c.elements.find? stops with
    | some e =>
      if e.isOneOf tags then
        c.onElements fun es => (es.generateImplied [e.tag]).popThrough (·.isHtml e.tag)
      else c
    | none => c
  c.closeParagraph.insert tag attributes

def startForeign (c : Construction) (space : Space) (tag : String) (attributes : Attributes)
    (selfClosing : Bool) : Construction :=
  let c := c.openElement space tag attributes
  if selfClosing then c.pop else c

def startForm (c : Construction) (attributes : Attributes) : Construction :=
  if c.form.isSome then c
  else
    let c := c.closeParagraph.insert "form" attributes
    { c with form := c.elements.head?.map (·.number) }

def startButton (c : Construction) (attributes : Attributes) : Construction :=
  (c.closeInScope "button").reconstruct.insert "button" attributes

def startTable (c : Construction) (attributes : Attributes) : Construction :=
  let c := if c.loose then c else c.closeParagraph
  (c.insert "table" attributes).switch .inTable

def isTableMode (m : Mode) : Bool :=
  [.inTable, .inCaption, .inTableBody, .inRow, .inCell].contains m

def startSelect (c : Construction) (attributes : Attributes) : Construction :=
  let mode := if isTableMode c.mode then .inSelectInTable else .inSelect
  (c.reconstruct.insert "select" attributes).switch mode

def startRuby (c : Construction) (tag : String) (excepted : List String)
    (attributes : Attributes) : Construction :=
  let c := if c.elements.inScope (·.isHtml "ruby") then
    c.onElements (.generateImplied excepted) else c
  c.insert tag attributes

def startBody (c : Construction) (attributes : Attributes) : Construction :=
  match (c.elements.reverse.drop 1).head?.filter (·.isHtml "body") with
  | none => c
  | some body => { c with tree := c.tree.addAttributes body.number attributes }

def startInBody (c : Construction) (tag : String) (attributes : Attributes) (selfClosing : Bool) :
    Construction :=
  if tag = "html" then c.startHtml attributes
  else if tag = "noscript" || headElements.contains tag then c.startHeadElement tag attributes
  else if tag = "body" then c.startBody attributes
  else if tag = "frameset" || tag = "frame" || tag = "head" || tableElements.contains tag then c
  else if blockElements.contains tag then c.startBlock tag attributes
  else if headingElements.contains tag then c.startHeading tag attributes
  else if tag = "pre" || tag = "listing" then
    { c.startBlock tag attributes with skipLineFeed := true }
  else if tag = "form" then c.startForm attributes
  else if tag = "li" then c.startItem ["li"] tag attributes
  else if tag = "dd" || tag = "dt" then c.startItem ["dd", "dt"] tag attributes
  else if tag = "plaintext" then { c.startBlock tag attributes with reading := .plain }
  else if tag = "button" then c.startButton attributes
  else if formattingElements.contains tag then c.startFormattingElement tag attributes
  else if tag = "applet" || tag = "marquee" || tag = "object" then
    (c.reconstruct.insert tag attributes).addMarker
  else if tag = "table" then c.startTable attributes
  else if voidElements.contains tag then c.reconstruct.insertVoid tag attributes
  else if tag = "param" || tag = "source" || tag = "track" then c.insertVoid tag attributes
  else if tag = "hr" then c.closeParagraph.insertVoid tag attributes
  else if tag = "image" then c.reconstruct.insertVoid "img" attributes
  else if tag = "textarea" then
    { c.insertPlain tag attributes (.characters tag true) with skipLineFeed := true }
  else if tag = "xmp" then
    c.closeParagraph.reconstruct.insertPlain tag attributes (.characters tag false)
  else if tag = "iframe" || tag = "noembed" then
    c.insertPlain tag attributes (.characters tag false)
  else if tag = "select" then c.startSelect attributes
  else if tag = "optgroup" || tag = "option" then
    (c.onElements (.popTopIf "option")).reconstruct.insert tag attributes
  else if tag = "rb" || tag = "rtc" then c.startRuby tag [] attributes
  else if tag = "rp" || tag = "rt" then c.startRuby tag ["rtc"] attributes
  else if tag = "math" then c.startForeign .math tag attributes selfClosing
  else if tag = "svg" then c.startForeign .svg tag attributes selfClosing
  else c.reconstruct.insert tag attributes

def endParagraph (c : Construction) : Construction :=
  (if c.elements.inButtonScope "p" then c else c.insert "p" []).closeParagraph

def endHeading (c : Construction) : Construction :=
  if c.elements.inScope (·.isOneOf headingElements) then
    c.onElements fun es => (es.generateImplied []).popThrough (·.isOneOf headingElements)
  else c

def endForm (c : Construction) : Construction :=
  match c.form with
  | none => c
  | some number =>
    let c := { c with form := none }
    if c.elements.inScope (·.number = number) then
      c.onElements fun es => (es.generateImplied []).remove number
    else c

def endItem (c : Construction) (tag : String) : Construction :=
  let inScope := if tag = "li" then c.elements.inListScope tag
    else c.elements.inScope (·.isHtml tag)
  if inScope then
    c.onElements fun es => (es.generateImplied [tag]).popThrough (·.isHtml tag)
  else c

def endInBody (c : Construction) (tag : String) : Outcome :=
  if tag = "body" || tag = "html" then
    if c.elements.inScope (·.isHtml "body") then
      let c := c.switch .afterBody
      if tag = "html" then .again c else .done c
    else .done c
  else if closableElements.contains tag then .done (c.closeInScope tag)
  else if tag = "form" then .done c.endForm
  else if tag = "p" then .done c.endParagraph
  else if tag = "li" || tag = "dd" || tag = "dt" then .done (c.endItem tag)
  else if headingElements.contains tag then .done c.endHeading
  else if formattingElements.contains tag then .done (c.endFormatting tag)
  else if tag = "applet" || tag = "marquee" || tag = "object" then
    if c.elements.inScope (·.isHtml tag) then .done (c.closeInScope tag).clearToMarker
    else .done c
  else if tag = "br" then .done (c.reconstruct.insertVoid "br" [])
  else .done (c.endOther tag)

def inBody (c : Construction) : Token → Outcome
  | .char ch => .done (if ch = '\x00' then c else c.reconstruct.insertChar ch)
  | .comment s => .done (c.insertComment s)
  | .startTag tag attributes selfClosing => .done (c.startInBody tag attributes selfClosing)
  | .endTag tag => c.endInBody tag
  | _ => .done c

def afterBody (c : Construction) (t : Token) : Outcome :=
  match t with
  | .char ch => if isSpace ch then c.inBody t else .again (c.switch .inBody)
  | .comment s => .done (c.insertOuterComment s)
  | .startTag "html" attributes _ => .done (c.startHtml attributes)
  | .endTag "html" => .done (c.switch .afterAll)
  | .stop => .done c
  | _ => .again (c.switch .inBody)

def afterAll (c : Construction) (t : Token) : Outcome :=
  match t with
  | .char ch => if isSpace ch then c.inBody t else .again (c.switch .inBody)
  | .comment _ => .done c
  | .startTag "html" attributes _ => .done (c.startHtml attributes)
  | .stop => .done c
  | _ => .again (c.switch .inBody)

end Construction

end PageGraph.Markup
