import PageGraph.Classify.Chain
import PageGraph.Proofs.Except
import PageGraph.Proofs.Graph.Forest

namespace PageGraph

def Node.bare (n : Node) : Node :=
  { n with payload := none, labels := .empty }

theorem Node.bare_eq_iff (m n : Node) :
    m.bare = n.bare ↔ m.id = n.id ∧ m.tag = n.tag ∧ m.name = n.name ∧ m.index = n.index ∧
      m.classes = n.classes ∧ m.isRoot = n.isRoot ∧ m.parent = n.parent := by
  cases m
  cases n
  simp [bare]

structure Relabelled (g h : Graph) : Prop where
  edges : h.edges = g.edges
  free : h.free = g.free
  size : h.slots.size = g.slots.size
  node : ∀ s, (h.node? s).map Node.bare = (g.node? s).map Node.bare

namespace Relabelled

variable {g h : Graph}

theorem refl (g : Graph) : Relabelled g g :=
  ⟨rfl, rfl, rfl, fun _ => rfl⟩

theorem trans {k : Graph} (hgh : Relabelled g h) (hhk : Relabelled h k) : Relabelled g k := by
  constructor
  · rw [hhk.edges, hgh.edges]
  · rw [hhk.free, hgh.free]
  · rw [hhk.size, hgh.size]
  · intro s
    rw [hhk.node, hgh.node]

theorem modify (g : Graph) (s : Slot) (f : Node → Node) (hf : ∀ n, (f n).bare = n.bare) :
    Relabelled g (g.modify s f) := by
  refine ⟨rfl, rfl, Array.size_modify .., ?_⟩
  intro t
  rw [Graph.node?_modify]
  split
  · simp only [Option.map_map, Function.comp_def, hf]
  · rfl

theorem exists_node (hgh : Relabelled g h) {s : Slot} {m : Node} (hm : h.node? s = some m) :
    ∃ n, g.node? s = some n ∧ m.bare = n.bare := by
  have hs := hgh.node s
  rw [hm, Option.map_some] at hs
  obtain ⟨n, hn, hbare⟩ := Option.map_eq_some_iff.mp hs.symm
  exact ⟨n, hn, hbare.symm⟩

theorem contains (hgh : Relabelled g h) (s : Slot) : h.contains s = g.contains s := by
  have hs := congrArg Option.isSome (hgh.node s)
  simpa only [Graph.contains, Option.isSome_map] using hs

theorem nodes (hgh : Relabelled g h) :
    h.nodes.map (fun e => (e.1, e.2.bare)) = g.nodes.map fun e => (e.1, e.2.bare) := by
  have hnodes (k : Graph) : k.nodes.map (fun e => (e.1, e.2.bare)) =
      (List.range k.slots.size).filterMap fun s => ((k.node? s).map Node.bare).map (s, ·) := by
    simp only [Graph.nodes, List.map_filterMap, Option.map_map, Function.comp_def]
  rw [hnodes, hnodes, hgh.size]
  simp only [hgh.node]

theorem slotsWhere (hgh : Relabelled g h) (p : Node → Bool) (hp : ∀ n, p n.bare = p n) :
    h.slotsWhere p = g.slotsWhere p := by
  have hslots (k : Graph) : k.slotsWhere p =
      ((k.nodes.map fun e => (e.1, e.2.bare)).filter fun e => p e.2).map (·.1) := by
    simp only [Graph.slotsWhere, List.filter_map, List.map_map, Function.comp_def, hp]
  rw [hslots, hslots, hgh.nodes]

theorem roots (hgh : Relabelled g h) : h.roots = g.roots :=
  hgh.slotsWhere _ fun _ => rfl

theorem nodeCount (hgh : Relabelled g h) : h.nodeCount = g.nodeCount :=
  Graph.nodeCount_congr hgh.contains

theorem parents (hgh : Relabelled g h) (s : Slot) : h.parents s = g.parents s := by
  rw [Graph.parents, Graph.parents, hgh.edges]

theorem children (hgh : Relabelled g h) (s : Slot) : h.children s = g.children s := by
  rw [Graph.children, Graph.children, hgh.edges]

theorem rooted (hgh : Relabelled g h) (hg : g.Rooted) : h.Rooted := by
  have hedge (p c : Slot) : h.Edge p c ↔ g.Edge p c := by
    rw [Graph.Edge, Graph.Edge, hgh.edges]
  have hedges : h.Edge = g.Edge := by
    funext p c
    exact propext (hedge p c)
  refine ⟨⟨hg.simple.congr hgh.edges hgh.contains, ?_, ?_⟩, ?_, ?_⟩
  · rw [hedges]
    exact hg.unique
  · rw [hedges]
    exact hg.acyclic
  · intro s m hm
    obtain ⟨n, hn, hbare⟩ := hgh.exists_node hm
    obtain ⟨-, -, -, -, -, -, hparent⟩ := (Node.bare_eq_iff m n).mp hbare
    rw [hparent, hgh.parents]
    exact hg.parent s n hn
  · intro s m hm
    obtain ⟨n, hn, hbare⟩ := hgh.exists_node hm
    obtain ⟨-, -, -, -, -, hroot, -⟩ := (Node.bare_eq_iff m n).mp hbare
    rw [hroot, Graph.inDegree, hgh.parents]
    exact hg.isRoot s n hn

end Relabelled

namespace Labelling

theorem relabelled_add (place : LabelSet → Label → LabelSet) (l : Label) (r : Labelling)
    (s : Slot) : Relabelled r.graph (r.add place l s).graph := by
  unfold add
  split
  · exact .refl r.graph
  · exact .modify r.graph s _ fun _ => rfl

theorem relabelled_addTitle (r : Labelling) (s : Slot) :
    Relabelled r.graph (r.addTitle s).graph := by
  have hfill : Relabelled r.graph (r.graph.fillPayload s) := .modify r.graph s _ fun _ => rfl
  exact hfill.trans (relabelled_add .addBack .title { r with graph := r.graph.fillPayload s } s)

theorem relabelled_foldl (step : Labelling → Slot → Labelling)
    (hstep : ∀ r s, Relabelled r.graph (step r s).graph) (r : Labelling) (ss : List Slot) :
    Relabelled r.graph (ss.foldl step r).graph := by
  induction ss generalizing r with
  | nil => exact .refl r.graph
  | cons s ss ih => exact (hstep r s).trans (ih (step r s))

end Labelling

namespace Graph

open Labelling

theorem relabelled_classify (g : Graph) (l : Label) (r : Labelling) (h : g.classify l = .ok r) :
    Relabelled g r.graph := by
  cases l with
  | title =>
    cases h
    exact relabelled_foldl _ relabelled_addTitle (.start g) _
  | link =>
    cases h
    exact relabelled_foldl _ (relabelled_add _ _) (.start g) _
  | linkList =>
    cases h
    exact relabelled_foldl _ (relabelled_add _ _) (.start g) _
  | grid =>
    obtain ⟨candidates, _, hr⟩ := bind_eq_ok.mp h
    cases hr
    exact relabelled_foldl _ (relabelled_add _ _) (.start g) _

theorem classifyAll_keeps {P : Graph → Prop}
    (hstep : ∀ g l r, P g → g.classify l = .ok r → P r.graph) {g : Graph} (hg : P g)
    (report : ClassifyReport) (labels : List Label) : P (g.classifyAll report labels).1 := by
  induction labels generalizing g report with
  | nil => exact hg
  | cons l labels ih =>
    rw [classifyAll]
    cases h : g.classify l with
    | error e => exact hg
    | ok r => exact ih (hstep g l r hg h) _

theorem relabelled_classifyAll (g : Graph) (report : ClassifyReport) (labels : List Label) :
    Relabelled g (g.classifyAll report labels).1 := by
  refine classifyAll_keeps ?_ (.refl g) report labels
  intro h l r hgh hok
  exact hgh.trans (h.relabelled_classify l r hok)

theorem relabelled_runChain {g h : Graph} {labels : List Label}
    {result : Except GraphError ClassifyReport} (hrun : g.runChain labels = (h, result)) :
    Relabelled g h := by
  have hall := g.relabelled_classifyAll {} labels
  rwa [← runChain, hrun] at hall

theorem classify_eq_error (g : Graph) (l : Label) (e : GraphError) :
    g.classify l = .error e ↔ l = .grid ∧ g.designatedRoot = .error e := by
  cases l with
  | grid =>
    cases hroot : g.designatedRoot with
    | error e' => simp [classify, labelGrids, gridCandidates, hroot, bind, Except.bind]
    | ok root =>
      simp [classify, labelGrids, gridCandidates, hroot, bind, Except.bind, pure, Except.pure]
  | _ => simp [classify]

theorem runChain_eq_error_iff (g : Graph) (e : GraphError) :
    (g.runChain classifierOrder).2 = .error e ↔ g.designatedRoot = .error e := by
  have hgrids := g.classify_eq_error .grid e
  rw [runChain, classifierOrder, classifyAll]
  cases hclassify : g.classify .grid with
  | error e' =>
    rw [hclassify] at hgrids
    simpa using hgrids
  | ok r =>
    rw [hclassify] at hgrids
    simpa [classifyAll, classify] using hgrids

end Graph

end PageGraph
