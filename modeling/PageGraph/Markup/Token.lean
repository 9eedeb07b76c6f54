import PageGraph.Markup.Doctype
import PageGraph.Markup.Reference

namespace PageGraph.Markup

abbrev Attributes := List (String × String)

inductive Token where
  | startTag (tag : String) (attributes : Attributes) (selfClosing : Bool)
  | endTag (tag : String)
  | char (c : Char)
  | comment (s : String)
  | doctype (d : Doctype)
  | fault
  | stop
  deriving DecidableEq, Repr

inductive Reading where
  | markup
  | characters (tag : String) (references : Bool)
  | script
  | plain
  deriving DecidableEq, Repr

def isSpace (c : Char) : Bool :=
  c = ' ' || c = '\n' || c = '\t' || c = '\x0c' || c = '\r'

def lowerText (cs : List Char) : String :=
  String.ofList (cs.map fun c => if c = '\x00' then '\ufffd' else c.toLower)

def unifyLines : List Char → List Char
  | [] => []
  | '\r' :: '\n' :: cs => '\n' :: unifyLines cs
  | '\r' :: cs => '\n' :: unifyLines cs
  | c :: cs => c :: unifyLines cs

def skipByteOrderMark : List Char → List Char
  | '\ufeff' :: cs => cs
  | cs => cs

def endsTagName (c : Char) : Bool :=
  isSpace c || c = '/' || c = '>'

def endsAttributeName (c : Char) : Bool :=
  endsTagName c || c = '='

def readValueUntil (ends : Char → Bool) : List Char → List Char → List Char × List Char
  | [], cs => ([], cs)
  | _, [] => ([], [])
  | _ :: bound, c :: cs =>
    if ends c then ([], c :: cs)
    else if c = '&' then
      let (chars, cs) := readReference true cs
      let (value, cs) := readValueUntil ends bound cs
      (chars ++ value, cs)
    else
      let (value, cs) := readValueUntil ends bound cs
      ((if c = '\x00' then '\ufffd' else c) :: value, cs)

def readAttributeValue (cs : List Char) : Option (String × List Char) :=
  match cs.dropWhile isSpace with
  | [] => none
  | c :: cs =>
    if c = '"' || c = '\'' then
      let (value, cs) := readValueUntil (· = c) cs cs
      match cs with
      | [] => none
      | _ :: cs => some (String.ofList value, cs)
    else if c = '>' then some ("", c :: cs)
    else
      let (value, cs) := readValueUntil (fun c => isSpace c || c = '>') (c :: cs) (c :: cs)
      some (String.ofList value, cs)

def readAttributeName : List Char → String × List Char
  | [] => ("", [])
  | c :: cs =>
    (lowerText (c :: cs.takeWhile fun c => !endsAttributeName c),
      cs.dropWhile fun c => !endsAttributeName c)

/-- Attributes up to the end of a tag, and whether a slash stands right in front of that end. Of
attributes with one name the first counts. Where the text ends inside a tag there is no tag. Every
step takes a character at least, so that the text itself, the first argument, bounds them. -/
def readAttributes : List Char → Attributes → List Char → Option (Attributes × Bool × List Char)
  | [], _, _ => none
  | _ :: bound, found, cs =>
    match cs.dropWhile isSpace with
    | [] => none
    | '>' :: cs => some (found, false, cs)
    | '/' :: '>' :: cs => some (found, true, cs)
    | '/' :: cs => readAttributes bound found cs
    | cs => do
      let (name, cs) := readAttributeName cs
      let (value, cs) ← match cs.dropWhile isSpace with
        | '=' :: cs => readAttributeValue cs
        | cs => some ("", cs)
      let found := if (found.lookup name).isSome then found else found ++ [(name, value)]
      readAttributes bound found cs

def readTag (closing : Bool) (cs : List Char) : List Token × List Char :=
  let name := lowerText (cs.takeWhile fun c => !endsTagName c)
  match readAttributes cs [] (cs.dropWhile fun c => !endsTagName c) with
  | none => ([], [])
  | some (attributes, selfClosing, cs) =>
    (if closing then [.endTag name] else [.startTag name attributes selfClosing], cs)

def readComment : List Char → List Char × List Char
  | [] => ([], [])
  | '-' :: '-' :: '>' :: cs => ([], cs)
  | '-' :: '-' :: '!' :: '>' :: cs => ([], cs)
  | c :: cs =>
    let (text, cs) := readComment cs
    (c :: text, cs)

def readBogus (cs : List Char) : List Token × List Char :=
  ([.comment (String.ofList (cs.takeWhile (· ≠ '>')))], (cs.dropWhile (· ≠ '>')).drop 1)

def skipDoctype (d : Doctype) (cs : List Char) : Doctype × List Char :=
  (d, (cs.dropWhile (· ≠ '>')).drop 1)

def endDoctype (d : Doctype) (cs : List Char) : Doctype × List Char :=
  match cs with
  | '>' :: cs => (d, cs)
  | cs => skipDoctype { d with malformed := true } cs

def readIdentifier (quote : Char) (cs : List Char) : String × Bool × List Char :=
  let inside (c : Char) := c ≠ quote && c ≠ '>'
  let rest := cs.dropWhile inside
  (String.ofList (cs.takeWhile inside), rest.head? = some quote, rest.drop 1)

def readSystemId (d : Doctype) (cs : List Char) : Doctype × List Char :=
  match cs.dropWhile isSpace with
  | c :: cs =>
    if c = '"' || c = '\'' then
      let (id, isClosed, cs) := readIdentifier c cs
      let d := { d with systemId := some id, malformed := !isClosed }
      if !isClosed then (d, cs)
      else if (cs.dropWhile isSpace).isEmpty then ({ d with malformed := true }, [])
      else skipDoctype d cs
    else endDoctype { d with malformed := true } (c :: cs)
  | [] => ({ d with malformed := true }, [])

def readPublicId (d : Doctype) (cs : List Char) : Doctype × List Char :=
  match cs.dropWhile isSpace with
  | c :: cs =>
    if c = '"' || c = '\'' then
      let (id, isClosed, cs) := readIdentifier c cs
      let d := { d with publicId := some id, malformed := !isClosed }
      if !isClosed then (d, cs)
      else match cs.dropWhile isSpace with
        | '>' :: cs => (d, cs)
        | cs => readSystemId d cs
    else endDoctype { d with malformed := true } (c :: cs)
  | [] => ({ d with malformed := true }, [])

def startsWithWord (word : String) (cs : List Char) : Bool :=
  word.toList.isPrefixOf ((cs.take word.length).map Char.toLower)

def readDoctype (cs : List Char) : Doctype × List Char :=
  let cs := cs.dropWhile isSpace
  let inName (c : Char) := !isSpace c && c ≠ '>'
  let name := cs.takeWhile inName
  let d : Doctype := { name := lowerText name, malformed := name.isEmpty }
  let cs := (cs.dropWhile inName).dropWhile isSpace
  if startsWithWord "public" cs then readPublicId d (cs.drop 6)
  else if startsWithWord "system" cs then readSystemId d (cs.drop 6)
  else endDoctype d cs

def readSection : List Char → List Token × List Char
  | [] => ([], [])
  | ']' :: ']' :: '>' :: cs => ([], cs)
  | c :: cs =>
    let (tokens, cs) := readSection cs
    (.char c :: tokens, cs)

def readDeclaration (foreign : Bool) (cs : List Char) : List Token × List Char :=
  match cs with
  | '-' :: '-' :: '>' :: cs => ([.comment ""], cs)
  | '-' :: '-' :: '-' :: '>' :: cs => ([.comment ""], cs)
  | '-' :: '-' :: cs =>
    let (text, cs) := readComment cs
    ([.comment (String.ofList text)], cs)
  | cs =>
    if startsWithWord "doctype" cs then
      let (d, cs) := readDoctype (cs.drop 7)
      ([.doctype d], cs)
    else if foreign && "[CDATA[".toList.isPrefixOf cs then readSection (cs.drop 7)
    else readBogus cs

def readBracket (foreign : Bool) (cs : List Char) : List Token × List Char :=
  match cs with
  | '!' :: cs => readDeclaration foreign cs
  | '?' :: _ => readBogus cs
  | '/' :: c :: rest =>
    if c.isAlpha then readTag true (c :: rest)
    else if c = '>' then ([.fault], rest)
    else readBogus (c :: rest)
  | c :: _ => if c.isAlpha then readTag false cs else ([.char '<'], cs)
  | [] => ([.char '<'], [])

def readCharReference (cs : List Char) : List Token × List Char :=
  let (chars, rest) := readReference false cs
  let tokens := chars.map Token.char
  (if isUnclosedNumber cs then .fault :: tokens else tokens, rest)

def readMarkup (foreign : Bool) : List Char → List Token × List Char
  | [] => ([], [])
  | '<' :: cs => readBracket foreign cs
  | '&' :: cs => readCharReference cs
  | c :: cs => ([.char c], cs)

def opensTag (slash : Bool) (tag : String) (cs : List Char) : Bool :=
  let opening := '<' :: (if slash then ['/'] else []) ++ tag.toList
  startsWithWord (String.ofList opening) cs
    && (cs.drop opening.length).head?.any endsTagName

def readCharacters (tag : String) (references : Bool) (cs : List Char) : List Token × List Char :=
  if opensTag true tag cs then readTag true (cs.drop 2)
  else match cs with
    | [] => ([], [])
    | '&' :: cs =>
      if references then readCharReference cs
      else ([.char '&'], cs)
    | c :: cs => ([.char (if c = '\x00' then '\ufffd' else c)], cs)

inductive ScriptDepth where
  | outside
  | comment
  | nested
  deriving DecidableEq, Repr

def readScript : Nat → ScriptDepth → List Char → List Token × List Char
  | 0, _, cs => ([], cs)
  | _, _, [] => ([], [])
  | n + 1, depth, c :: cs =>
    if depth ≠ .nested && opensTag true "script" (c :: cs) then
      let (tokens, cs) := readTag true (cs.drop 1)
      (tokens, skipByteOrderMark cs)
    else
      let depth :=
        if depth = .outside && "<!--".toList.isPrefixOf (c :: cs) then .comment
        else if depth ≠ .outside && "-->".toList.isPrefixOf (c :: cs) then .outside
        else if depth = .comment && opensTag false "script" (c :: cs) then .nested
        else if depth = .nested && opensTag true "script" (c :: cs) then .comment
        else depth
      let (tokens, cs) := readScript n depth cs
      (.char (if c = '\x00' then '\ufffd' else c) :: tokens, cs)

def readTokens (reading : Reading) (foreign : Bool) (cs : List Char) : List Token × List Char :=
  match reading with
  | .markup => readMarkup foreign cs
  | .characters tag references => readCharacters tag references cs
  | .script => readScript cs.length .outside cs
  | .plain => (cs.map fun c => .char (if c = '\x00' then '\ufffd' else c), [])

end PageGraph.Markup
