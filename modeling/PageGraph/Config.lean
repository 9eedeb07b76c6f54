import PageGraph.Json.Decode
import PageGraph.Json.Reader
import PageGraph.Text.Ascii

namespace PageGraph

structure BuildConfig where
  deniedTags : List String := ["script", "noscript", "style", "svg", "img", "image", "picture",
    "input", "head", "kin-address-form"]
  deniedTexts : List String := ["view", "x", "apply", "sort by", "skip", "skip to content",
    "skip to navigation menu", "×", "cancel", "sort/view", "filter"]
  deriving DecidableEq, Repr

structure PruneConfig where
  keptTags : List String := ["a", "h1", "h2", "h3", "h4", "h5", "h6"]
  deriving DecidableEq, Repr

structure SearchConfig where
  topAnchors : UInt64 := 10000
  topNeighbours : UInt64 := 10000
  ignoreCase : Bool := true
  window : UInt64 := 50
  deriving DecidableEq, Repr

structure FetchConfig where
  userAgent : String := "Mozilla/5.0"
  timeoutSeconds : UInt64 := 30
  deriving DecidableEq, Repr

structure Config where
  build : BuildConfig := {}
  prune : PruneConfig := {}
  search : SearchConfig := {}
  fetch : FetchConfig := {}
  deriving DecidableEq, Repr

namespace BuildConfig

def deniesTag (c : BuildConfig) (tag : String) : Bool :=
  c.deniedTags.any (Text.sameIgnoringCase tag)

/-- Denied texts are compared as they are; the caller trims and lower-cases the text. -/
def deniesText (c : BuildConfig) (text : String) : Bool :=
  c.deniedTexts.contains text

def ofJson? (j : Json) : Option BuildConfig := do
  let r ← j.record? ["denied_tags", "denied_texts"]
  let default : BuildConfig := {}
  let deniedTags ← r.defaulted "denied_tags" (Json.list? Json.text?) default.deniedTags
  let deniedTexts ← r.defaulted "denied_texts" (Json.list? Json.text?) default.deniedTexts
  return { deniedTags, deniedTexts }

def toJson (c : BuildConfig) : Json :=
  .object [("denied_tags", .ofTexts c.deniedTags), ("denied_texts", .ofTexts c.deniedTexts)]

end BuildConfig

namespace PruneConfig

def keeps (c : PruneConfig) (tag : String) : Bool :=
  c.keptTags.any (Text.sameIgnoringCase tag)

def ofJson? (j : Json) : Option PruneConfig := do
  let r ← j.record? ["keep_tags"]
  let default : PruneConfig := {}
  let keptTags ← r.defaulted "keep_tags" (Json.list? Json.text?) default.keptTags
  return { keptTags }

def toJson (c : PruneConfig) : Json :=
  .object [("keep_tags", .ofTexts c.keptTags)]

end PruneConfig

namespace SearchConfig

def ofJson? (j : Json) : Option SearchConfig := do
  let r ← j.record? ["top_k_anchors", "top_k_neighbors", "case_insensitive", "snippet_window"]
  let default : SearchConfig := {}
  let topAnchors ← r.defaulted "top_k_anchors" Json.uint64? default.topAnchors
  let topNeighbours ← r.defaulted "top_k_neighbors" Json.uint64? default.topNeighbours
  let ignoreCase ← r.defaulted "case_insensitive" Json.bool? default.ignoreCase
  let window ← r.defaulted "snippet_window" Json.uint64? default.window
  return { topAnchors, topNeighbours, ignoreCase, window }

def toJson (c : SearchConfig) : Json :=
  .object [
    ("top_k_anchors", .ofNat c.topAnchors.toNat),
    ("top_k_neighbors", .ofNat c.topNeighbours.toNat),
    ("case_insensitive", .bool c.ignoreCase),
    ("snippet_window", .ofNat c.window.toNat)]

end SearchConfig

namespace FetchConfig

def ofJson? (j : Json) : Option FetchConfig := do
  let r ← j.record? ["user_agent", "timeout_secs"]
  let default : FetchConfig := {}
  let userAgent ← r.defaulted "user_agent" Json.text? default.userAgent
  let timeoutSeconds ← r.defaulted "timeout_secs" Json.uint64? default.timeoutSeconds
  return { userAgent, timeoutSeconds }

def toJson (c : FetchConfig) : Json :=
  .object [("user_agent", .string c.userAgent), ("timeout_secs", .ofNat c.timeoutSeconds.toNat)]

def canSend (c : FetchConfig) : Bool :=
  c.userAgent.toList.all fun ch => ch = '\t' || (0x20 ≤ ch.toNat && ch.toNat ≠ 0x7F)

end FetchConfig

namespace Config

def ofJson? (j : Json) : Option Config := do
  let r ← j.record? ["builder", "pruner", "search", "fetch"]
  let build ← r.defaulted "builder" BuildConfig.ofJson? {}
  let prune ← r.defaulted "pruner" PruneConfig.ofJson? {}
  let search ← r.defaulted "search" SearchConfig.ofJson? {}
  let fetch ← r.defaulted "fetch" FetchConfig.ofJson? {}
  return { build, prune, search, fetch }

def toJson (c : Config) : Json :=
  .object [
    ("builder", c.build.toJson),
    ("pruner", c.prune.toJson),
    ("search", c.search.toJson),
    ("fetch", c.fetch.toJson)]

def load? (file : Option String) : Option Config := do
  let text ← file
  let j ← Json.parse? text
  ofJson? j

structure Environment where
  configPath : Option String := none
  userAgent : Option String := none
  timeoutSeconds : Option String := none
  topK : Option String := none
  deriving DecidableEq, Repr

/-- The configuration for an environment, where `read?` gives the text of a file. A file that cannot
be used leaves all defaults, and a number that cannot be read changes nothing. -/
def ofEnvironment (read? : String → Option String) (env : Environment) : Config :=
  let c := (env.configPath.bind fun path => load? (read? path)).getD {}
  let agent := env.userAgent.getD c.fetch.userAgent
  let timeout := (env.timeoutSeconds.bind Numeral.readUInt64?).getD c.fetch.timeoutSeconds
  let topK := env.topK.bind Numeral.readUInt64?
  { c with
    fetch := ⟨agent, timeout⟩
    search := { c.search with
      topAnchors := topK.getD c.search.topAnchors
      topNeighbours := topK.getD c.search.topNeighbours } }

end Config

end PageGraph
