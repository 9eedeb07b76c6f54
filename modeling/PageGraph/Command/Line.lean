namespace PageGraph

inductive Command where
  | query (query : String) (page config : Option String)
  | graph (page : String) (node config : Option String)
  | help
  deriving DecidableEq, Repr

inductive UsageError where
  | unknownCommand (name : String)
  | unknownOption (flag : String)
  | missingValue (flag : String)
  | notOneQuery
  | notOnePage
  deriving DecidableEq, Repr

def UsageError.message : UsageError → String
  | .unknownCommand name => "Unknown command: " ++ name ++ ". Use 'domcypher help' for usage."
  | .unknownOption flag => "unknown option " ++ flag
  | .missingValue flag => flag ++ " needs a value"
  | .notOneQuery => "query takes exactly one query string"
  | .notOnePage => "graph takes exactly one HTML file"

namespace Command

def usage : String := "\n".intercalate [
  "domcypher: query a web page's DOM graph with Cypher",
  "",
  "Usage: domcypher <command> [options]",
  "",
  "Commands:",
  "  query <cypher> [--html FILE] [--config FILE]   Run a query; without --html the USE url is fetched",
  "  graph <FILE> [--node ID] [--config FILE]       Print graph stats, or render the subtree under ID",
  "  help                                           Show this help message",
  "",
  "Environment:",
  "  DOMCYPHER_CONFIG, DOMCYPHER_USER_AGENT, DOMCYPHER_FETCH_TIMEOUT_SECS, DOMCYPHER_TOP_K, RUST_LOG"]

structure Arguments where
  positional : List String := []
  flags : List (String × String) := []
  deriving DecidableEq, Repr

def isFlag (arg : String) : Bool :=
  "--".toList.isPrefixOf arg.toList

def split (known : List String) : List String → Except UsageError Arguments
  | [] => .ok {}
  | arg :: rest =>
    if !isFlag arg then do
      let a ← split known rest
      return { a with positional := arg :: a.positional }
    else if !known.contains arg then .error (.unknownOption arg)
    else match rest with
      | [] => .error (.missingValue arg)
      | value :: rest => do
        let a ← split known rest
        return { a with flags := (arg, value) :: a.flags }

def Arguments.value? (a : Arguments) (flag : String) : Option String :=
  a.flags.reverse.lookup flag

def readQuery (args : List String) : Except UsageError Command := do
  let a ← split ["--html", "--config"] args
  match a.positional with
  | [text] => return .query text (a.value? "--html") (a.value? "--config")
  | _ => .error .notOneQuery

def readGraph (args : List String) : Except UsageError Command := do
  let a ← split ["--node", "--config"] args
  match a.positional with
  | [file] => return .graph file (a.value? "--node") (a.value? "--config")
  | _ => .error .notOnePage

def ofArguments : List String → Except UsageError Command
  | [] => .ok .help
  | name :: args =>
    if name = "query" then readQuery args
    else if name = "graph" then readGraph args
    else if ["help", "--help", "-h"].contains name then .ok .help
    else .error (.unknownCommand name)

end Command

end PageGraph
