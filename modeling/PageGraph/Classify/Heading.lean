import PageGraph.Classify.Labelling

namespace PageGraph

def headingTags : List String :=
  ["h1", "h2", "h3", "h4", "h5", "h6"]

def Node.isHeading (n : Node) : Bool :=
  headingTags.any (Text.sameIgnoringCase n.tag)

def Graph.childText (g : Graph) (s : Slot) : String :=
  " ".intercalate ((g.children s).filterMap fun c => ((g.node? c).bind (·.payload)).map (·.text))

def Graph.fillPayload (g : Graph) (s : Slot) : Graph :=
  g.modify s fun n => { n with payload := n.payload <|> some { text := g.childText s } }

def Labelling.addTitle (r : Labelling) (s : Slot) : Labelling :=
  { r with graph := r.graph.fillPayload s }.add .addBack .title s

def Graph.labelTitles (g : Graph) : Labelling :=
  (g.slotsWhere (·.isHeading)).foldl .addTitle (.start g)

end PageGraph
