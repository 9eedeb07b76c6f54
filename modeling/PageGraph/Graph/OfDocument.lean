import PageGraph.Config
import PageGraph.Digest.Sha256
import PageGraph.Graph
import PageGraph.Markup.Content
import PageGraph.Text.Blank
import PageGraph.Text.Quoted
import Std.Data.HashMap

/-!
The graph of a document: a node for every element and every run of text below the outermost element,
in document order, with edges from the elements to what they hold. Denied elements are left out with
all that they hold, and so are denied and blank texts. A text stands as a node with the tag `p`.

The id of a node hashes its tag, the number of earlier nodes with that tag, and its classes.
-/

namespace PageGraph

open Markup

structure Sprout where
  tag : String
  classes : List String
  payload : Option Payload
  inside : List Content

namespace Sprout

def classesOf (attributes : List (String × String)) : List String :=
  ((attributes.lookup "class").map Text.words).getD []

def isAnchorTag (tag : String) : Bool :=
  Text.sameIgnoringCase tag "a"

/-- Elements without element children carry a payload, and anchors always. -/
def payloadOf? (tag : String) (attributes : List (String × String)) (children : List Content) :
    Option Payload :=
  let text := Text.collapse (String.join (Content.textsOfAll children))
  if isAnchorTag tag then some { text, href := attributes.lookup "href" }
  else if children.any (·.isElement) then none
  else some { text, alt := attributes.lookup "alt", src := attributes.lookup "src" }

/-- A paragraph of nothing but text stands for itself; all other elements are gone into. -/
def insideOf (tag : String) (children : List Content) : List Content :=
  if tag = "p" && !children.any (·.isElement) then [] else children

def of? (config : BuildConfig) : Content → Option Sprout
  | .comment _ => none
  | .text s =>
    let trimmed := Text.trim s
    if trimmed.isEmpty || config.deniesText (Text.lower trimmed) then none
    else some ⟨"p", [], some { text := Text.collapse s }, []⟩
  | .element tag attributes children =>
    let text := String.join (Content.textsOfAll children)
    if config.deniesTag tag || config.deniesText (Text.lower (Text.trim text)) then none
    else some ⟨tag, classesOf attributes, payloadOf? tag attributes children,
      insideOf tag children⟩

theorem sizeOfAll_insideOf (tag : String) (children : List Content) :
    Content.sizeOfAll (insideOf tag children) ≤ Content.sizeOfAll children := by
  unfold insideOf
  split
  · simp [Content.sizeOfAll]
  · exact Nat.le_refl _

theorem size_inside (config : BuildConfig) (c : Content) (s : Sprout) (h : of? config c = some s) :
    Content.sizeOfAll s.inside < c.size := by
  cases c with
  | comment t => simp [of?] at h
  | text t =>
    simp only [of?] at h
    split at h
    · simp at h
    · simp only [Option.some.injEq] at h
      subst h
      simp [Content.sizeOfAll, Content.size]
  | element tag attributes children =>
    simp only [of?] at h
    split at h
    · simp at h
    · simp only [Option.some.injEq] at h
      subst h
      have := sizeOfAll_insideOf tag children
      simp only [Content.size]
      omega

end Sprout

def nameDigits (name : String) : String :=
  let n := (Sha256.digestText name).foldl (fun n b => (n * 256 + b.toNat) % 100000000) 0
  let digits := Nat.toDigits 10 n
  String.ofList (List.replicate (8 - digits.length) '0' ++ digits)

def nodeName (tag : String) (count : Nat) (classes : List String) : String :=
  tag ++ "_" ++ toString count ++ "_" ++ Text.quoteList classes

structure Growth where
  graph : Graph := .empty
  counts : Std.HashMap String Nat := {}
  index : Nat := 0

namespace Growth

def nodeOf (g : Growth) (s : Sprout) (parent : Option Slot) : Node :=
  let name := nodeName s.tag (g.counts.getD s.tag 0) s.classes
  { id := s.tag ++ "_" ++ nameDigits name
    tag := s.tag
    name
    index := g.index
    classes := s.classes
    payload := s.payload
    isRoot := parent.isNone
    labels := .empty
    parent }

def add (g : Growth) (s : Sprout) (parent : Option Slot) : Except GraphError (Growth × Slot) := do
  let (graph, slot) ← g.graph.addNode (g.nodeOf s parent)
  let graph := match parent with
    | none => graph
    | some p => graph.addEdge p slot
  let counts := g.counts.insert s.tag (g.counts.getD s.tag 0 + 1)
  return (⟨graph, counts, g.index + 1⟩, slot)

def pending (stack : List (Content × Option Slot)) : Nat :=
  stack.foldr (fun entry total => entry.1.size + total) 0

theorem pending_append (a b : List (Content × Option Slot)) :
    pending (a ++ b) = pending a + pending b := by
  induction a with
  | nil => simp [pending]
  | cons x xs ih =>
    simp only [pending, List.cons_append, List.foldr_cons] at ih ⊢
    omega

theorem pending_below (contents : List Content) (parent : Option Slot) :
    pending (contents.map (·, parent)) = Content.sizeOfAll contents := by
  induction contents with
  | nil => rfl
  | cons c cs ih =>
    simp only [pending, List.map_cons, List.foldr_cons, Content.sizeOfAll] at ih ⊢
    omega

def run (config : BuildConfig) (g : Growth) (stack : List (Content × Option Slot)) :
    Except GraphError Growth :=
  match stack with
  | [] => .ok g
  | (c, parent) :: rest =>
    match _h : Sprout.of? config c with
    | none => run config g rest
    | some s => do
      let (g, slot) ← g.add s parent
      run config g (s.inside.map (·, some slot) ++ rest)
termination_by pending stack
decreasing_by
  · have := c.size_pos
    simp only [pending, List.foldr_cons]
    omega
  · have := Sprout.size_inside config c s ‹_›
    simp only [pending_append, pending_below]
    simp only [pending, List.foldr_cons]
    omega

end Growth

def Graph.ofDocument (config : BuildConfig) (d : Document) : Except GraphError Graph := do
  let g ← Growth.run config {} (d.children.map (·, none))
  return g.graph

end PageGraph
