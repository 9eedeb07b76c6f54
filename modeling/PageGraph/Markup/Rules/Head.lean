import PageGraph.Markup.Construction

namespace PageGraph.Markup

inductive Outcome where
  | done (c : Construction)
  | again (c : Construction)

namespace Construction

def startHeadElement (c : Construction) (tag : String) (attributes : Attributes) : Construction :=
  if tag = "title" then c.insertPlain tag attributes (.characters tag true)
  else if tag = "script" then c.insertPlain tag attributes .script
  else if tag = "style" || tag = "noframes" || tag = "noscript" then
    c.insertPlain tag attributes (.characters tag false)
  else c.insertVoid tag attributes

def enterHead (c : Construction) (attributes : Attributes) : Construction :=
  let c := c.insert "head" attributes
  { c with head := c.elements.head?, mode := .inHead }

def addToHead (c : Construction) (tag : String) (attributes : Attributes) : Construction :=
  match c.head with
  | none => c
  | some head =>
    ((c.onElements (head :: ·)).startHeadElement tag attributes).onElements (.remove head.number)

def initial (c : Construction) : Token → Outcome
  | .char ch => if isSpace ch then .done c else .again { c with mode := .beforeHtml, loose := true }
  | .comment _ => .done c
  | _ => .again { c with mode := .beforeHtml, loose := true }

def startsMissing (tag : String) : Bool :=
  ["body", "html", "br"].contains tag

def beforeHtml (c : Construction) (t : Token) : Outcome :=
  let missing : Outcome := .again ((c.insert "html" []).switch .beforeHead)
  match t with
  | .char ch => if isSpace ch then .done c else missing
  | .comment _ => .done c
  | .startTag "html" attributes _ => .done ((c.insert "html" attributes).switch .beforeHead)
  | .endTag tag => if tag = "head" || startsMissing tag then missing else .done c
  | _ => missing

def beforeHead (c : Construction) (t : Token) : Outcome :=
  let missing : Outcome := .again (c.enterHead [])
  match t with
  | .char ch => if isSpace ch then .done c else missing
  | .comment s => .done (c.insertComment s)
  | .startTag "html" attributes _ => .done (c.startHtml attributes)
  | .startTag "head" attributes _ => .done (c.enterHead attributes)
  | .endTag tag => if tag = "head" || startsMissing tag then missing else .done c
  | _ => missing

def inHead (c : Construction) (t : Token) : Outcome :=
  let left : Outcome := .again (c.pop.switch .afterHead)
  match t with
  | .char ch => if isSpace ch then .done (c.insertChar ch) else left
  | .comment s => .done (c.insertComment s)
  | .startTag "html" attributes _ => .done (c.startHtml attributes)
  | .startTag "head" _ _ => .done c
  | .startTag tag attributes _ =>
    if tag = "noscript" || headElements.contains tag then .done (c.startHeadElement tag attributes)
    else left
  | .endTag "head" => .done (c.pop.switch .afterHead)
  | .endTag tag => if startsMissing tag then left else .done c
  | _ => left

def afterHead (c : Construction) (t : Token) : Outcome :=
  let missing : Outcome := .again ((c.insert "body" []).switch .inBody)
  match t with
  | .char ch => if isSpace ch then .done (c.insertChar ch) else missing
  | .comment s => .done (c.insertComment s)
  | .startTag "html" attributes _ => .done (c.startHtml attributes)
  | .startTag "body" attributes _ => .done ((c.insert "body" attributes).switch .inBody)
  | .startTag "head" _ _ => .done c
  | .startTag tag attributes _ =>
    if headElements.contains tag then .done (c.addToHead tag attributes) else missing
  | .endTag tag => if startsMissing tag then missing else .done c
  | _ => missing

def inText (c : Construction) : Token → Outcome
  | .char ch => .done (c.insertChar ch)
  | .stop => .again { c.pop with mode := c.resume, reading := .markup }
  | _ => .done { c.pop with mode := c.resume, reading := .markup }

end Construction

end PageGraph.Markup
