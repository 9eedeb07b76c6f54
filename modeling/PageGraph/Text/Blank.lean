import PageGraph.Text.CodeRange

namespace PageGraph.Text

def blankRanges : CodeRanges := [
  (0x9, 0xD), (0x20, 0x20), (0x85, 0x85), (0xA0, 0xA0), (0x1680, 0x1680), (0x2000, 0x200A),
  (0x2028, 0x2029), (0x202F, 0x202F), (0x205F, 0x205F), (0x3000, 0x3000)]

def isBlank (c : Char) : Bool :=
  blankRanges.contains c

def trimChars (cs : List Char) : List Char :=
  ((cs.dropWhile isBlank).reverse.dropWhile isBlank).reverse

def trim (s : String) : String :=
  String.ofList (trimChars s.toList)

/-- The words of `cs`, where `word` holds the characters of the word being read, last one first. -/
def wordsFrom (word : List Char) : List Char → List (List Char)
  | [] => if word.isEmpty then [] else [word.reverse]
  | c :: cs =>
    if isBlank c then
      if word.isEmpty then wordsFrom [] cs else word.reverse :: wordsFrom [] cs
    else wordsFrom (c :: word) cs

def words (s : String) : List String :=
  (wordsFrom [] s.toList).map String.ofList

def collapse (s : String) : String :=
  " ".intercalate (words s)

end PageGraph.Text
