import PageGraph.Classify.Labelling
import PageGraph.Graph.Ancestry
import PageGraph.Graph.Depth
import Std.Data.HashMap

/-!
Grids: containers of repeated children of one kind. Any two nodes with a payload and at the same
depth below the designated root vote for their lowest common ancestor, and a node with votes is a
grid if its children agree in the first part of their ids and in their first label. How many votes
there are is told, but decides nothing.
-/

namespace PageGraph

structure GridCandidate where
  slot : Slot
  id : String
  incidence : Nat
  homogeneous : Bool
  deriving DecidableEq, Repr

def GridCandidate.toJson (c : GridCandidate) : Json :=
  .object [
    ("nodeId", .string c.id),
    ("incidence", .ofNat c.incidence),
    ("homogeneous", .bool c.homogeneous)]

def pairs : List α → List (α × α)
  | [] => []
  | x :: xs => xs.map (x, ·) ++ pairs xs

theorem pairs_map (f : α → β) (xs : List α) :
    pairs (xs.map f) = (pairs xs).map fun (a, b) => (f a, f b) := by
  induction xs with
  | nil => rfl
  | cons x xs ih => simp [pairs, ih]

def tally (ss : List Slot) : Std.HashMap Slot Nat :=
  ss.foldr (fun s counts => counts.insert s (counts.getD s 0 + 1)) {}

theorem getD_tally (ss : List Slot) (s : Slot) : (tally ss).getD s 0 = ss.count s := by
  induction ss with
  | nil => simp [tally]
  | cons t ss ih =>
    simp only [tally, List.foldr_cons, Std.HashMap.getD_insert, List.count_cons] at ih ⊢
    split
    · next h =>
      rw [eq_of_beq h, ih]
    · exact ih

namespace Graph

def payloadDepths (g : Graph) (root : Slot) : List (Slot × Nat) :=
  let depths := g.depthsFrom root
  (g.slotsWhere (·.payload.isSome)).filterMap fun s => (depths.lookup s).map (s, ·)

def votes (g : Graph) (root : Slot) : List Slot :=
  let ways := (g.payloadDepths root).map fun (s, depth) => (g.ancestors s, depth)
  (pairs ways).filterMap fun (a, b) => if a.2 = b.2 then meeting? a.1 b.1 else none

theorem votes_eq (g : Graph) (root : Slot) :
    g.votes root = (pairs (g.payloadDepths root)).filterMap fun (a, b) =>
      if a.2 = b.2 then g.lca? a.1 b.1 else none := by
  simp only [votes, pairs_map, List.filterMap_map, Function.comp_def, lca?_eq_meeting?]

def homogeneous (g : Graph) (s : Slot) : Bool :=
  match (g.children s).filterMap g.node? with
  | [] => false
  | n :: ns => ns.all fun m => m.idPrefix = n.idPrefix && m.labels.first? = n.labels.first?

def gridCandidates (g : Graph) : Except GraphError (List GridCandidate) := do
  let root ← g.designatedRoot
  let votes := tally (g.votes root)
  return g.nodes.filterMap fun (s, n) =>
    let incidence := votes.getD s 0
    if incidence = 0 then none else some ⟨s, n.id, incidence, g.homogeneous s⟩

def labelGrids (g : Graph) : Except GraphError Labelling := do
  let candidates ← g.gridCandidates
  let grids := (candidates.filter (·.homogeneous)).map (·.slot)
  return grids.foldl (.add .addFront .grid) (.start g)

end Graph

end PageGraph
