import PageGraph.Json.Decode
import PageGraph.Text.Ascii

namespace PageGraph

structure Payload where
  text : String
  href : Option String := none
  alt : Option String := none
  src : Option String := none
  deriving DecidableEq, Repr

inductive PayloadField where
  | text
  | href
  | alt
  | src
  deriving DecidableEq, Repr

namespace PayloadField

def name : PayloadField → String
  | .text => "text"
  | .href => "href"
  | .alt => "alt"
  | .src => "src"

def all : List PayloadField :=
  [.text, .href, .alt, .src]

def ofName? (s : String) : Option PayloadField :=
  all.find? (·.name = s)

def ofProperty? (s : String) : Option PayloadField :=
  ofName? (Text.asciiLower s)

def read? (f : PayloadField) (p : Payload) : Option String :=
  match f with
  | .text => some p.text
  | .href => p.href
  | .alt => p.alt
  | .src => p.src

theorem ofName?_name (f : PayloadField) : ofName? f.name = some f := by
  cases f <;> rfl

end PayloadField

namespace Payload

def ofJson? (j : Json) : Option Payload := do
  let r ← j.record? ["text", "href", "alt", "src"]
  let text ← r.required "text" Json.text?
  let href ← r.optional "href" Json.text?
  let alt ← r.optional "alt" Json.text?
  let src ← r.optional "src" Json.text?
  return { text, href, alt, src }

def toJson (p : Payload) : Json :=
  .object <|
    ("text", .string p.text) :: Json.optionalField "href" .string p.href
      ++ Json.optionalField "alt" .string p.alt ++ Json.optionalField "src" .string p.src

end Payload

end PageGraph
