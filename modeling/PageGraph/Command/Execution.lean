import PageGraph.Command.Line
import PageGraph.Graph.Render
import PageGraph.Json.Writer
import PageGraph.Run

namespace PageGraph

structure World (m : Type → Type) where
  read : String → m (Option String)
  environment : Config.Environment
  fetch : Fetcher m

inductive CommandError where
  | badConfig
  | unreadable (path : String)
  | run (e : RunError)
  deriving DecidableEq, Repr

def CommandError.message : CommandError → String
  | .badConfig => "Configuration error"
  | .unreadable path => "Failed to read " ++ path
  | .run e => e.message

inductive Output where
  | text (s : String)
  | summary (m : PageModel)
  | answer (a : QueryAnswer)

namespace Output

def summaryJson (m : PageModel) : Json :=
  .object [
    ("classify", m.classify.toJson),
    ("graph", m.graph.stats.toJson),
    ("prune", m.prune.toJson)]

def toText : Output → String
  | .text s => s
  | .summary m => Json.renderIndented 0 (summaryJson m)
  | .answer a => Json.renderIndented 0 (a.toJson fun s => .number s.decimal)

end Output

namespace Command

variable {m : Type → Type} [Monad m]

/-- A configuration file that is named has to be there and in order; otherwise the environment
decides. -/
def configOf (w : World m) (path : Option String) : m (Except CommandError Config) := do
  match path with
  | some path =>
    match Config.load? (← w.read path) with
    | some c => return .ok c
    | none => return .error .badConfig
  | none =>
    let file ← match w.environment.configPath with
      | some path => w.read path
      | none => pure none
    return .ok (.ofEnvironment (fun _ => file) w.environment)

def onPage (w : World m) (path : String) (f : String → Except RunError α) :
    m (Except CommandError α) := do
  match ← w.read path with
  | none => return .error (.unreadable path)
  | some page => return (f page).mapError .run

def runQuery (w : World m) (config : Config) (query : String) :
    Option String → m (Except CommandError Output)
  | some path => do
    let result ← onPage w path (QueryAnswer.onPage config query)
    return result.map .answer
  | none => do
    if config.fetch.canSend then
      let result ← QueryAnswer.fetching w.fetch config query
      return (result.mapError .run).map .answer
    else return .error .badConfig

def showModel (node : Option String) (model : PageModel) : Except RunError Output :=
  match node with
  | none => .ok (.summary model)
  | some id => ((model.graph.render id).mapError .graph).map .text

def execute (w : World m) : Command → m (Except CommandError Output)
  | .help => return .ok (.text usage)
  | .query text page config => do
    match ← configOf w config with
    | .error e => return .error e
    | .ok config => runQuery w config text page
  | .graph page node config => do
    match ← configOf w config with
    | .error e => return .error e
    | .ok config =>
      onPage w page fun text => do
        let model ← (PageModel.ofPage config text).mapError .graph
        showModel node model

end Command

end PageGraph
