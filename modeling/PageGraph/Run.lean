import PageGraph.Classify.Chain
import PageGraph.Fetch
import PageGraph.Graph.OfDocument
import PageGraph.Graph.Pruning
import PageGraph.Graph.Stats
import PageGraph.Markup.Rules
import PageGraph.Query.Compile
import PageGraph.Search.Neighbour

namespace PageGraph

inductive RunError where
  | query (e : QueryError)
  | fetch (e : FetchError)
  | graph (e : GraphError)
  | fault (e : Fault)
  deriving DecidableEq, Repr

def RunError.message : RunError → String
  | .query e => e.message
  | .fetch e => e.message
  | .graph e => e.message
  | .fault e => e.message

structure PageModel where
  graph : Graph
  prune : PruneReport
  classify : ClassifyReport

def PageModel.ofDocument (config : Config) (d : Markup.Document) : Except GraphError PageModel := do
  let built ← Graph.ofDocument config.build d
  let (pruned, prune) ← built.prune config.prune
  let (graph, classified) := pruned.runChain classifierOrder
  let classify ← classified
  return { graph, prune, classify }

def PageModel.ofPage (config : Config) (page : String) : Except GraphError PageModel :=
  PageModel.ofDocument config (.parse page)

inductive Stage where
  | compile
  | fetch
  | build
  | prune
  | classify
  | retrieve
  | match
  deriving DecidableEq, Repr

namespace Stage

def name : Stage → String
  | .compile => "compile"
  | .fetch => "fetch"
  | .build => "build"
  | .prune => "prune"
  | .classify => "classify"
  | .retrieve => "retrieve"
  | .match => "match"

def all : List Stage :=
  [.compile, .fetch, .build, .prune, .classify, .retrieve, .match]

def onPage : List Stage :=
  [.build, .prune, .classify, .retrieve, .match]

end Stage

structure QueryAnswer where
  plan : Plan
  pageHash : String
  graph : Graph.Stats
  prune : PruneReport
  classify : ClassifyReport
  anchorCount : Nat
  results : List AnchorMatches
  stages : List Stage
  deriving DecidableEq, Repr

namespace QueryAnswer

def ofModel (stages : List Stage) (page : String) (model : PageModel) (anchors : List Anchor)
    (plan : Plan) : QueryAnswer where
  plan
  pageHash := Sha256.hex (Sha256.digestText page)
  graph := model.graph.stats
  prune := model.prune
  classify := model.classify
  anchorCount := anchors.length
  results := model.graph.matchAnchors plan anchors
  stages

def ofPlan (config : Config) (plan : Plan) (page : String) (before : List Stage) :
    Except RunError QueryAnswer := do
  let model ← (PageModel.ofPage config page).mapError .graph
  let anchors ← (model.graph.anchors plan.textMatch config.search.window).mapError .fault
  return ofModel (before ++ Stage.onPage) page model anchors plan

def compile (config : Config) (query : String) : Except RunError Plan :=
  (Plan.ofText query config.search).mapError .query

def onPage (config : Config) (query page : String) : Except RunError QueryAnswer := do
  let plan ← compile config query
  ofPlan config plan page [.compile]

def fetching [Monad m] (fetch : Fetcher m) (config : Config) (query : String) :
    m (Except RunError QueryAnswer) := do
  match compile config query with
  | .error e => return .error e
  | .ok plan =>
    match plan.page with
    | none => return .error (.query (.unsupported .missingPage))
    | some url =>
      match ← fetch url with
      | .error e => return .error (.fetch e)
      | .ok page => return ofPlan config plan page [.compile, .fetch]

def byAnchor (a : QueryAnswer) : List (String × List Neighbour) :=
  a.results.map fun r => (r.anchor, r.neighbours)

def toJson (score : Score → Json) (a : QueryAnswer) : Json :=
  .object [
    ("plan", a.plan.toJson),
    ("pageHash", .string a.pageHash),
    ("graph", a.graph.toJson),
    ("prune", a.prune.toJson),
    ("classify", a.classify.toJson),
    ("anchorCount", .ofNat a.anchorCount),
    ("results", .ofList (AnchorMatches.toJson score) a.results),
    ("stages", .ofList (fun s => .string s.name) a.stages)]

end QueryAnswer

end PageGraph
