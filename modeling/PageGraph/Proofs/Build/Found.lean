import PageGraph.Proofs.Build.Growth

namespace PageGraph

open Markup

structure Found where
  content : Content
  parent : Option Slot

namespace Markup.Content

def holdsElement (children : List Content) : Bool :=
  children.any (·.isElement)

def tag : Content → String
  | .element tag _ _ => tag
  | _ => "p"

def classes : Content → List String
  | .element _ attributes _ => Sprout.classesOf attributes
  | _ => []

def payload? : Content → Option Payload
  | .comment _ => none
  | .text s => some { text := Text.collapse s }
  | .element tag attributes children => Sprout.payloadOf? tag attributes children

def bearsPayload : Content → Bool
  | .comment _ => false
  | .text _ => true
  | .element tag _ children => Sprout.isAnchorTag tag || !holdsElement children

theorem isSome_payload? (c : Content) : c.payload?.isSome = c.bearsPayload := by
  cases c with
  | comment s => rfl
  | text s => rfl
  | element tag attributes children =>
    rw [payload?, bearsPayload, Sprout.payloadOf?, holdsElement]
    split
    · next htag => simp [htag]
    · next htag => cases children.any (·.isElement) <;> simp [htag]

end Markup.Content

namespace Found

def node (before : List Found) (f : Found) : Node :=
  let count := before.countP (·.content.tag = f.content.tag)
  let name := nodeName f.content.tag count f.content.classes
  { id := f.content.tag ++ "_" ++ nameDigits name
    tag := f.content.tag
    name
    index := before.length
    classes := f.content.classes
    payload := f.content.payload?
    isRoot := f.parent.isNone
    labels := .empty
    parent := f.parent }

def nodes (found : List Found) : List Node :=
  found.mapIdx fun i f => f.node (found.take i)

def ids (found : List Found) : List String :=
  (nodes found).map (·.id)

def graph (found : List Found) : Graph where
  slots := ((nodes found).map some).toArray
  free := []
  edges := found.zipIdx.filterMap fun (f, i) => f.parent.map (·, i)

theorem length_nodes (found : List Found) : (nodes found).length = found.length :=
  List.length_mapIdx

theorem getElem?_nodes (found : List Found) (i : Nat) :
    (nodes found)[i]? = found[i]?.map (·.node (found.take i)) :=
  List.getElem?_mapIdx

theorem nodes_concat (found : List Found) (f : Found) :
    nodes (found ++ [f]) = nodes found ++ [f.node found] := by
  apply List.ext_getElem?
  intro i
  rw [getElem?_nodes, List.getElem?_append, List.getElem?_append, length_nodes, getElem?_nodes]
  by_cases hi : i < found.length
  · rw [if_pos hi, if_pos hi, List.take_append_of_le_length (Nat.le_of_lt hi)]
  · rw [if_neg hi, if_neg hi, List.getElem?_singleton, List.getElem?_singleton]
    split
    · rw [List.take_append_of_le_length (by omega), List.take_of_length_le (by omega)]
      rfl
    · rfl

theorem ids_concat (found : List Found) (f : Found) :
    ids (found ++ [f]) = ids found ++ [(f.node found).id] := by
  rw [ids, nodes_concat, List.map_append]
  rfl

theorem size_slots_graph (found : List Found) : (graph found).slots.size = found.length := by
  simp [graph, length_nodes]

theorem node?_graph (found : List Found) (i : Nat) :
    (graph found).node? i = (nodes found)[i]? := by
  simp only [graph, Graph.node?, List.getElem?_toArray, List.getElem?_map]
  cases (nodes found)[i]? <;> rfl

theorem graph_concat (found : List Found) (f : Found) :
    graph (found ++ [f]) = (graph found).planted (f.node found) := by
  rw [Graph.planted, size_slots_graph]
  simp only [graph, nodes_concat, List.zipIdx_append, List.filterMap_append, Nat.zero_add]
  cases hf : f.parent <;> simp [node, hf]

theorem child_lt_length {found : List Found} {e : Slot × Slot} (he : e ∈ (graph found).edges) :
    e.2 < found.length := by
  obtain ⟨⟨f, i⟩, hmem, hf⟩ := List.mem_filterMap.mp he
  obtain ⟨p, _, rfl⟩ := Option.map_eq_some_iff.mp hf
  exact (List.mem_zipIdx' hmem).1

theorem parents_graph (found : List Found) (i : Nat) (f : Found) (hf : found[i]? = some f) :
    (graph found).parents i = f.parent.toList := by
  induction found using List.reverseRecOn with
  | nil => simp at hf
  | append_singleton found l ih =>
    have hchild : ∀ e ∈ (graph found).edges, e.2 < (graph found).slots.size := by
      intro e he
      rw [size_slots_graph]
      exact child_lt_length he
    rw [graph_concat, Graph.parents_planted hchild, size_slots_graph]
    by_cases hi : i = found.length
    · rw [if_pos hi]
      rw [hi, List.getElem?_concat_length, Option.some.injEq] at hf
      rw [← hf]
      rfl
    · rw [if_neg hi]
      apply ih
      have hlt := (List.getElem?_eq_some_iff.mp hf).1
      rw [List.length_append, List.length_singleton] at hlt
      have hold : i < found.length := by omega
      rwa [List.getElem?_append_left hold] at hf

theorem edge_graph_iff {found : List Found} {p i : Slot} :
    (graph found).Edge p i ↔ ∃ f, found[i]? = some f ∧ f.parent = some p := by
  constructor
  · intro he
    have hi := child_lt_length he
    have hmem := (Graph.mem_parents _ _ _).mpr he
    rw [parents_graph found i _ (List.getElem?_eq_getElem hi)] at hmem
    exact ⟨found[i], List.getElem?_eq_getElem hi, Option.mem_toList.mp hmem⟩
  · rintro ⟨f, hf, hp⟩
    apply (Graph.mem_parents _ _ _).mp
    rw [parents_graph found i f hf]
    exact Option.mem_toList.mpr hp

theorem pairwise_edges (found : List Found) :
    (graph found).edges.Pairwise fun e e' => e.2 < e'.2 := by
  have hzip : found.zipIdx.Pairwise fun a b => a.2 < b.2 := by
    apply List.Pairwise.of_map Prod.snd (fun _ _ h => h)
    rw [List.zipIdx_map_snd]
    exact List.pairwise_lt_range' 1
  rw [graph, List.pairwise_filterMap]
  apply hzip.imp
  intro a b hab e he e' he'
  obtain ⟨_, _, rfl⟩ := Option.map_eq_some_iff.mp he
  obtain ⟨_, _, rfl⟩ := Option.map_eq_some_iff.mp he'
  exact hab

theorem slotOf?_graph_eq_none_iff (found : List Found) (id : String) :
    (graph found).slotOf? id = none ↔ id ∉ ids found := by
  rw [Graph.slotOf?_eq_none_iff, ids, List.mem_map]
  simp only [node?_graph, not_exists, not_and]
  constructor
  · intro h n hn
    obtain ⟨i, hi⟩ := List.getElem?_of_mem hn
    exact h i n hi
  · intro h i n hn
    exact h n (List.mem_of_getElem? hn)

theorem nodup_ids_concat {found : List Found} (hids : (ids found).Nodup) (f : Found) :
    (ids (found ++ [f])).Nodup ↔ (f.node found).id ∉ ids found := by
  rw [ids_concat, ← List.concat_eq_append, List.nodup_concat]
  exact and_iff_left hids

theorem nodes_prefix (found new : List Found) : nodes found <+: nodes (found ++ new) := by
  induction new using List.reverseRecOn with
  | nil => rw [List.append_nil]
  | append_singleton new f ih =>
    rw [← List.append_assoc, nodes_concat]
    exact ih.trans (List.prefix_append _ _)

theorem ids_prefix (found new : List Found) : ids found <+: ids (found ++ new) :=
  List.IsPrefix.map Node.id <| nodes_prefix found new

end Found

/-- The nodes are those found, in that order, and so are the edges, by the nodes they lead to. -/
structure Graph.Lists (g : Graph) (found : List Found) : Prop where
  size : g.slots.size = found.length
  node : ∀ i f, found[i]? = some f → ∃ n, g.node? i = some n ∧
    n.index = i ∧
    n.tag = f.content.tag ∧
    n.classes = f.content.classes ∧
    n.name = nodeName n.tag ((found.take i).countP (·.content.tag = n.tag)) n.classes ∧
    n.parent = f.parent ∧
    n.isRoot = f.parent.isNone ∧
    n.payload = f.content.payload? ∧
    n.payload.isSome = f.content.bearsPayload
  parents : ∀ i f, found[i]? = some f → g.parents i = f.parent.toList
  edges : g.edges.Pairwise fun e e' => e.2 < e'.2

theorem Found.lists_graph (found : List Found) : (graph found).Lists found := by
  refine ⟨size_slots_graph found, ?_, parents_graph found, pairwise_edges found⟩
  intro i f hf
  have hlength : (found.take i).length = i := by
    have hi := (List.getElem?_eq_some_iff.mp hf).1
    rw [List.length_take, Nat.min_eq_left (Nat.le_of_lt hi)]
  refine ⟨f.node (found.take i), ?_, hlength, rfl, rfl, rfl, rfl, rfl, rfl, ?_⟩
  · rw [node?_graph, getElem?_nodes, hf]
    rfl
  · exact Content.isSome_payload? f.content

end PageGraph
