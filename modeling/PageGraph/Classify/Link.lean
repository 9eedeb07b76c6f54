import PageGraph.Classify.Labelling

namespace PageGraph.Graph

def labelLinks (g : Graph) : Labelling :=
  (g.slotsWhere (·.isAnchor)).foldl (.add .addFront .link) (.start g)

def isLinkList (g : Graph) (s : Slot) : Bool :=
  let children := g.children s
  !children.isEmpty && children.all fun c => (g.node? c).any (·.isAnchor)

def labelLinkLists (g : Graph) : Labelling :=
  ((g.nodes.map (·.1)).filter g.isLinkList).foldl (.add .addBack .linkList) (.start g)

end PageGraph.Graph
