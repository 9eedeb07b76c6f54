namespace PageGraph.Text

def asciiLower (s : String) : String :=
  String.ofList (s.toList.map Char.toLower)

def sameIgnoringCase (s t : String) : Bool :=
  asciiLower s = asciiLower t

end PageGraph.Text
