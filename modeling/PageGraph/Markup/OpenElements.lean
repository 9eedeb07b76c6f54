import PageGraph.Markup.Vocabulary

namespace PageGraph.Markup

structure OpenElement where
  number : Nat
  space : Space
  tag : String

abbrev OpenElements := List OpenElement

namespace OpenElement

def isHtml (e : OpenElement) (tag : String) : Bool :=
  e.space = .html && e.tag = tag

def isOneOf (e : OpenElement) (tags : List String) : Bool :=
  e.space = .html && tags.contains e.tag

def isSpecial (e : OpenElement) : Bool :=
  e.isOneOf specialElements

def isMathText (e : OpenElement) : Bool :=
  e.space = .math && mathTextElements.contains e.tag

def isIntegrationPoint (e : OpenElement) : Bool :=
  e.space = .svg && svgIntegrationElements.contains e.tag

def isOrdinary (e : OpenElement) : Bool :=
  e.space = .html || e.isMathText || e.isIntegrationPoint

def isBarrier (more : List String) (e : OpenElement) : Bool :=
  match e.space with
  | .html => scopeElements.contains e.tag || more.contains e.tag
  | _ => e.isMathText || e.isIntegrationPoint

end OpenElement

namespace OpenElements

def popThrough (p : OpenElement → Bool) (es : OpenElements) : OpenElements :=
  (es.dropWhile (!p ·)).drop 1

def remove (number : Nat) (es : OpenElements) : OpenElements :=
  es.filter (·.number ≠ number)

def generateImplied (excepted : List String) (es : OpenElements) : OpenElements :=
  es.dropWhile fun e => e.isOneOf impliedEndElements && !excepted.contains e.tag

def inScopeOf (barriers : OpenElement → Bool) (p : OpenElement → Bool) : OpenElements → Bool
  | [] => false
  | e :: es => p e || (!barriers e && inScopeOf barriers p es)

def inScope (p : OpenElement → Bool) (es : OpenElements) : Bool :=
  es.inScopeOf (·.isBarrier []) p

def inButtonScope (tag : String) (es : OpenElements) : Bool :=
  es.inScopeOf (·.isBarrier ["button"]) (·.isHtml tag)

def inListScope (tag : String) (es : OpenElements) : Bool :=
  es.inScopeOf (·.isBarrier ["ol", "ul"]) (·.isHtml tag)

def inTableScope (tags : List String) (es : OpenElements) : Bool :=
  es.inScopeOf (·.isOneOf ["html", "table", "template"]) (·.isOneOf tags)

def inSelectScope (tag : String) (es : OpenElements) : Bool :=
  es.inScopeOf (!·.isOneOf ["optgroup", "option"]) (·.isHtml tag)

def topIs (tags : List String) (es : OpenElements) : Bool :=
  es.head?.any (·.isOneOf tags)

def popTopIf (tag : String) (es : OpenElements) : OpenElements :=
  if es.topIs [tag] then es.drop 1 else es

def closeParagraph (es : OpenElements) : OpenElements :=
  if es.inButtonScope "p" then (es.generateImplied ["p"]).popThrough (·.isHtml "p") else es

def clearTo (tags : List String) (es : OpenElements) : OpenElements :=
  es.dropWhile (!·.isOneOf tags)

end OpenElements

end PageGraph.Markup
