import PageGraph.Markup.Rules.Body

namespace PageGraph.Markup

def Outcome.map (f : Construction → Construction) : Outcome → Outcome
  | .done c => .done (f c)
  | .again c => .again (f c)

namespace Construction

def foster (c : Construction) (t : Token) : Outcome :=
  (inBody { c with fostering := true } t).map fun c => { c with fostering := false }

def charInTable (c : Construction) (t : Token) : Outcome :=
  if c.elements.topIs fosteringElements then
    .again { c with mode := .inTableText, resume := c.mode }
  else c.foster t

def placeTableText (c : Construction) : Construction :=
  let chars := c.tableText.reverse
  let c := { c with tableText := [] }
  if chars.all isSpace then chars.foldl insertChar c
  else
    let c := chars.foldl (fun c ch => c.reconstruct.insertChar ch) { c with fostering := true }
    { c with fostering := false }

def inTableText (c : Construction) : Token → Outcome
  | .char ch => .done (if ch = '\x00' then c else { c with tableText := ch :: c.tableText })
  | _ => .again (c.placeTableText.switch c.resume)

def endTable (c : Construction) : Construction :=
  (c.onElements (.popThrough (·.isHtml "table"))).resetMode

def isHidden (attributes : Attributes) : Bool :=
  (attributes.lookup "type").any fun s => lowerText s.toList = "hidden"

def startFormInTable (c : Construction) (attributes : Attributes) : Construction :=
  if c.form.isSome then c
  else
    let number := c.tree.size
    { c.insertVoid "form" attributes with form := some number }

def inTable (c : Construction) (t : Token) : Outcome :=
  let cleared := c.onElements (.clearTo ["table", "template", "html"])
  match t with
  | .char _ => c.charInTable t
  | .comment s => .done (c.insertComment s)
  | .startTag "caption" attributes _ =>
    .done ((cleared.addMarker.insert "caption" attributes).switch .inCaption)
  | .startTag "colgroup" attributes _ =>
    .done ((cleared.insert "colgroup" attributes).switch .inColumnGroup)
  | .startTag "col" _ _ => .again ((cleared.insert "colgroup" []).switch .inColumnGroup)
  | .startTag "table" _ _ =>
    if c.elements.inTableScope ["table"] then .again c.endTable else .done c
  | .startTag "form" attributes _ => .done (c.startFormInTable attributes)
  | .startTag tag attributes _ =>
    if tableSections.contains tag then
      .done ((cleared.insert tag attributes).switch .inTableBody)
    else if tableElements.contains tag then
      .again ((cleared.insert "tbody" []).switch .inTableBody)
    else if tag = "style" || tag = "script" then .done (c.startHeadElement tag attributes)
    else if tag = "input" && isHidden attributes then .done (c.insertVoid tag attributes)
    else c.foster t
  | .endTag "table" => .done (if c.elements.inTableScope ["table"] then c.endTable else c)
  | .endTag tag =>
    if tableElements.contains tag || tag = "body" || tag = "html" then .done c else c.foster t
  | .stop => c.inBody t
  | _ => c.foster t

def closeCaption (c : Construction) : Construction :=
  let c := c.onElements fun es => (es.generateImplied []).popThrough (·.isHtml "caption")
  c.clearToMarker.switch .inTable

def inCaption (c : Construction) (t : Token) : Outcome :=
  let isOpen := c.elements.inTableScope ["caption"]
  match t with
  | .endTag "caption" => .done (if isOpen then c.closeCaption else c)
  | .endTag "table" => if isOpen then .again c.closeCaption else .done c
  | .startTag tag _ _ =>
    if tableElements.contains tag then
      if isOpen then .again c.closeCaption else .done c
    else c.inBody t
  | .endTag tag =>
    if tableElements.contains tag || tag = "body" || tag = "html" then .done c else c.inBody t
  | _ => c.inBody t

def inColumnGroup (c : Construction) (t : Token) : Outcome :=
  let left : Outcome :=
    if c.elements.topIs ["colgroup"] then .again (c.pop.switch .inTable) else .done c
  match t with
  | .char ch => if isSpace ch then .done (c.insertChar ch) else left
  | .comment s => .done (c.insertComment s)
  | .startTag "html" attributes _ => .done (c.startHtml attributes)
  | .startTag "col" attributes _ => .done (c.insertVoid "col" attributes)
  | .endTag "colgroup" =>
    .done (if c.elements.topIs ["colgroup"] then c.pop.switch .inTable else c)
  | .endTag "col" => .done c
  | .stop => c.inBody t
  | _ => left

def inTableBody (c : Construction) (t : Token) : Outcome :=
  let cleared := c.onElements (.clearTo (["template", "html"] ++ tableSections))
  let left : Outcome :=
    if c.elements.inTableScope ["table", "tbody", "tfoot"] then
      .again (cleared.pop.switch .inTable)
    else .done c
  match t with
  | .startTag "tr" attributes _ => .done ((cleared.insert "tr" attributes).switch .inRow)
  | .startTag tag _ _ =>
    if tag = "th" || tag = "td" then .again ((cleared.insert "tr" []).switch .inRow)
    else if tableElements.contains tag then left
    else c.inTable t
  | .endTag "table" => left
  | .endTag tag =>
    if tableSections.contains tag then
      .done (if c.elements.inTableScope [tag] then cleared.pop.switch .inTable else c)
    else if tableElements.contains tag || tag = "body" || tag = "html" then .done c
    else c.inTable t
  | _ => c.inTable t

def inRow (c : Construction) (t : Token) : Outcome :=
  let cleared := c.onElements (.clearTo ["tr", "template", "html"])
  let isOpen := c.elements.inTableScope ["tr"]
  let left := cleared.pop.switch .inTableBody
  match t with
  | .startTag tag attributes _ =>
    if tag = "th" || tag = "td" then
      .done ((cleared.insert tag attributes).switch .inCell).addMarker
    else if tableElements.contains tag then
      if isOpen then .again left else .done c
    else c.inTable t
  | .endTag "tr" => .done (if isOpen then left else c)
  | .endTag "table" => if isOpen then .again left else .done c
  | .endTag tag =>
    if tableSections.contains tag then
      if c.elements.inTableScope [tag] && isOpen then .again left else .done c
    else if tableElements.contains tag || tag = "body" || tag = "html" then .done c
    else c.inTable t
  | _ => c.inTable t

def closeCell (c : Construction) (tags : List String) : Construction :=
  let c := c.onElements fun es => (es.generateImplied []).popThrough (·.isOneOf tags)
  c.clearToMarker.switch .inRow

def inCell (c : Construction) (t : Token) : Outcome :=
  let cell := ["td", "th"]
  match t with
  | .startTag tag _ _ =>
    if tableElements.contains tag then
      if c.elements.inTableScope cell then .again (c.closeCell cell) else .done c
    else c.inBody t
  | .endTag tag =>
    if cell.contains tag then
      .done (if c.elements.inTableScope [tag] then c.closeCell [tag] else c)
    else if tag = "table" || tag = "tr" || tableSections.contains tag then
      if c.elements.inTableScope [tag] then .again (c.closeCell cell) else .done c
    else if tableElements.contains tag || tag = "body" || tag = "html" then .done c
    else c.inBody t
  | _ => c.inBody t

def endSelect (c : Construction) : Construction :=
  if c.elements.inSelectScope "select" then
    (c.onElements (.popThrough (·.isHtml "select"))).resetMode
  else c

def inSelect (c : Construction) (t : Token) : Outcome :=
  let ended := c.onElements (.popTopIf "option")
  let endedGroup := c.onElements fun es => (es.popTopIf "option").popTopIf "optgroup"
  match t with
  | .char ch => .done (if ch = '\x00' then c else c.insertChar ch)
  | .comment s => .done (c.insertComment s)
  | .startTag "html" attributes _ => .done (c.startHtml attributes)
  | .startTag "option" attributes _ => .done (ended.insert "option" attributes)
  | .startTag "optgroup" attributes _ => .done (endedGroup.insert "optgroup" attributes)
  | .startTag "hr" attributes _ => .done (endedGroup.insertVoid "hr" attributes)
  | .startTag "select" _ _ => .done c.endSelect
  | .startTag "script" attributes _ => .done (c.startHeadElement "script" attributes)
  | .startTag tag _ _ =>
    if (tag = "input" || tag = "keygen" || tag = "textarea")
        && c.elements.inSelectScope "select" then .again c.endSelect
    else .done c
  | .endTag "optgroup" =>
    let inGroup := (c.elements.drop 1).head?.any (·.isHtml "optgroup")
    .done ((if inGroup then ended else c).onElements (.popTopIf "optgroup"))
  | .endTag "option" => .done ended
  | .endTag "select" => .done c.endSelect
  | _ => .done c

def inSelectInTable (c : Construction) (t : Token) : Outcome :=
  let ends := fun tag => tag = "table" || tag = "tr" || tag = "td" || tag = "th"
    || tag = "caption" || tableSections.contains tag
  match t with
  | .startTag tag _ _ => if ends tag then .again c.endSelect else c.inSelect t
  | .endTag tag =>
    if ends tag then
      if c.elements.inTableScope [tag] then .again c.endSelect else .done c
    else c.inSelect t
  | _ => c.inSelect t

end Construction

end PageGraph.Markup
