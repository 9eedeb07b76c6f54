import PageGraph.Proofs.Build.Growth
import PageGraph.Proofs.Classify.Relabelling
import PageGraph.Proofs.Graph.Sound
import PageGraph.Proofs.Pruning.Passes

namespace PageGraph

open Markup

namespace Graph

namespace SameFrame

theorem refreshParents (g : Graph) : SameFrame g g.refreshParents := by
  refine ⟨rfl, rfl, Array.size_mapIdx, ?_⟩
  intro s
  simp only [Graph.refreshParents, node?, Array.getElem?_mapIdx]
  cases g.slots[s]? with
  | none => rfl
  | some o => cases o <;> rfl

theorem settled (g : Graph) : SameFrame g g.settled := by
  refine ⟨rfl, rfl, ?_, ?_⟩
  · rw [Graph.settled, Graph.refreshParents, flagOrphans, Array.size_mapIdx, Array.size_mapIdx]
  · intro s
    rw [node?_settled, Option.map_map]
    rfl

theorem inheritAll (g : Graph) (gone : Node) (cs : List Slot) :
    SameFrame g (g.inheritAll gone cs) := by
  unfold Graph.inheritAll
  induction cs generalizing g with
  | nil => exact .refl g
  | cons c cs ih =>
    have hone : SameFrame g (g.modify c (·.inheriting gone)) := .modify g c fun _ => rfl
    exact hone.trans (ih _)

end SameFrame

theorem sameFrame_of_relabelled {g h : Graph} (r : Relabelled g h) : SameFrame g h := by
  refine ⟨r.edges, r.free, r.size, ?_⟩
  intro s
  have hbare (o : Option Node) : o.map (·.id) = (o.map Node.bare).map (·.id) := by
    rw [Option.map_map]
    rfl
  rw [hbare, r.node s, ← hbare]

theorem becomes_addEdges {g : Graph} (es : List (Slot × Slot))
    (he : ∀ e ∈ es, g.contains e.1 = true ∧ g.contains e.2 = true) : Becomes g (g.addEdges es) := by
  unfold addEdges
  induction es generalizing g with
  | nil => exact .refl g
  | cons d es ih =>
    obtain ⟨h1, h2⟩ := he d List.mem_cons_self
    apply (becomes_addEdge h1 h2).trans
    apply ih
    intro e hm
    simpa only [contains, node?_addEdge] using he e (List.mem_cons_of_mem d hm)

theorem becomes_dissolved {g : Graph} (hg : g.Simple) (s : Slot) (gone : Node) :
    Becomes g (g.dissolved s gone) := by
  have hjoined : Becomes g (g.joinAll (g.parents s) (g.children s)) := by
    rw [joinAll_eq_addEdges]
    apply becomes_addEdges
    intro e he
    obtain ⟨h1, h2⟩ := List.mem_product.mp he
    exact ⟨hg.contains_parents s e.1 h1, hg.contains_children s e.2 h2⟩
  have hbypassed := hjoined.trans (SameFrame.inheritAll _ gone (g.children s)).becomes
  exact hbypassed.trans (becomes_removeNode _ s)

theorem Dissolves.becomes {g h : Graph} {ss : List Slot} (r : Dissolves g ss h) (hg : g.Simple) :
    Becomes g h := by
  induction r with
  | nil g => exact .refl g
  | cons gone hs r ih => exact (becomes_dissolved hg _ gone).trans (ih (hg.dissolved _ gone))

theorem Passes.becomes {config : PruneConfig} {g h : Graph} {r r' : PruneReport}
    (p : Passes config g r h r') (hg : g.Simple) : Becomes g h := by
  induction p with
  | done r hr => exact .refl _
  | pass hne d p ih => exact (d.becomes hg).trans (ih (d.simple hg))

theorem becomes_prune {g h : Graph} {config : PruneConfig} {report : PruneReport} (hg : g.Simple)
    (hprune : g.prune config = .ok (h, report)) : Becomes g h := by
  obtain ⟨k, r, hok, p⟩ := prune_ok hg config
  rw [hok, Except.ok.injEq, Prod.mk.injEq] at hprune
  rw [← hprune.1]
  exact (p.becomes hg).trans (SameFrame.settled k).becomes

end Graph

namespace Growth

open PageGraph.Graph

theorem add_eq_ok {g k : Growth} {s : Sprout} {parent : Option Slot} {slot : Slot}
    (hadd : g.add s parent = .ok (k, slot)) :
    ∃ h, g.graph.addNode (g.nodeOf s parent) = .ok (h, slot) ∧
      k.graph = parent.elim h fun p => h.addEdge p slot := by
  obtain ⟨⟨h, t⟩, hnode, hrest⟩ := bind_eq_ok.mp hadd
  cases hrest
  refine ⟨h, hnode, ?_⟩
  cases parent <;> rfl

theorem becomes_add {g k : Growth} {s : Sprout} {parent : Option Slot} {slot : Slot}
    (hg : g.graph.Consistent) (hparent : ∀ p, parent = some p → g.graph.contains p = true)
    (hadd : g.add s parent = .ok (k, slot)) :
    Becomes g.graph k.graph ∧ k.graph.contains slot = true ∧
      ∀ p, g.graph.contains p = true → k.graph.contains p = true := by
  obtain ⟨h, hnode, hk⟩ := add_eq_ok hadd
  have hgains := hg.gains hnode
  have hslot : h.contains slot = true := by
    rw [contains, hgains.node, if_pos rfl]
    rfl
  have hkept (p : Slot) (hp : g.graph.contains p = true) : h.contains p = true := by
    rw [contains, hgains.node]
    split
    · rfl
    · exact hp
  rw [hk]
  cases parent with
  | none => exact ⟨becomes_addNode hnode, hslot, hkept⟩
  | some p =>
    have hp := hkept p (hparent p rfl)
    refine ⟨(becomes_addNode hnode).trans (becomes_addEdge hp hslot), ?_, ?_⟩
    · simpa only [Option.elim_some, contains, node?_addEdge] using hslot
    · simpa only [Option.elim_some, contains, node?_addEdge] using hkept

theorem becomes_run (config : BuildConfig) (g k : Growth) (stack : List (Content × Option Slot))
    (hg : g.graph.Consistent) (hs : Anchored g.graph stack) (h : run config g stack = .ok k) :
    Becomes g.graph k.graph := by
  induction g, stack using run.induct config with
  | case1 g =>
    rw [run, Except.ok.injEq] at h
    exact h ▸ .refl g.graph
  | case2 g c parent rest hnone ih =>
    rw [run_skip config g c parent rest hnone] at h
    exact ih hg (fun d p hd => hs d p (List.mem_cons_of_mem _ hd)) h
  | case3 g c parent rest s hsome ih =>
    rw [run_add config g c parent rest s hsome] at h
    obtain ⟨⟨next, slot⟩, hadd, hrest⟩ := bind_eq_ok.mp h
    have hparent (p : Slot) (hp : parent = some p) : g.graph.contains p = true :=
      hs c p (hp ▸ List.mem_cons_self)
    obtain ⟨hnext, hslot, hkept⟩ := becomes_add hg hparent hadd
    obtain ⟨_, leads⟩ := id hnext
    refine hnext.trans (ih next slot (hg.leads leads) ?_ hrest)
    intro d p hd
    rcases List.mem_append.mp hd with hd | hd
    · obtain ⟨_, _, heq⟩ := List.mem_map.mp hd
      exact Option.some.inj (Prod.mk.inj heq).2 ▸ hslot
    · exact hkept p (hs d p (List.mem_cons_of_mem _ hd))

end Growth

namespace Graph

theorem becomes_ofDocument {config : BuildConfig} {d : Document} {g : Graph}
    (h : ofDocument config d = .ok g) : Becomes .empty g := by
  obtain ⟨built, hrun, hbuilt⟩ := bind_eq_ok.mp h
  have hstack : Growth.Anchored empty (d.children.map (·, none)) := by
    intro c p hc
    simp at hc
  rw [← Except.ok.inj hbuilt]
  exact Growth.becomes_run config {} built _ consistent_empty hstack hrun

inductive Reached : Graph → Prop where
  | empty : Reached .empty
  | built {config : BuildConfig} {d : Document} {g : Graph} (h : ofDocument config d = .ok g) :
      Reached g
  | addNode {g h : Graph} {n : Node} {s : Slot} (r : Reached g)
      (hadd : g.addNode n = .ok (h, s)) : Reached h
  | addEdge {g : Graph} {p c : Slot} (r : Reached g) (hp : g.contains p = true)
      (hc : g.contains c = true) : Reached (g.addEdge p c)
  | removeNode {g : Graph} (s : Slot) (r : Reached g) : Reached (g.removeNode s)
  | refreshParents {g : Graph} (r : Reached g) : Reached g.refreshParents
  | prune {g h : Graph} {config : PruneConfig} {report : PruneReport} (r : Reached g)
      (hprune : g.prune config = .ok (h, report)) : Reached h
  | classify {g : Graph} {l : Label} {marked : Labelling} (r : Reached g)
      (hlabel : g.classify l = .ok marked) : Reached marked.graph
  | runChain {g : Graph} (labels : List Label) (r : Reached g) : Reached (g.runChain labels).1
  | modify {g : Graph} (s : Slot) {f : Node → Node} (r : Reached g) (hf : ∀ n, (f n).id = n.id) :
      Reached (g.modify s f)

theorem Reached.becomes {g : Graph} (r : Reached g) : Becomes .empty g := by
  induction r with
  | empty => exact .refl .empty
  | built h => exact becomes_ofDocument h
  | addNode r hadd ih => exact ih.trans (becomes_addNode hadd)
  | addEdge r hp hc ih => exact ih.trans (becomes_addEdge hp hc)
  | removeNode s r ih => exact ih.trans (becomes_removeNode _ s)
  | refreshParents r ih => exact ih.trans (SameFrame.refreshParents _).becomes
  | prune r hprune ih => exact ih.trans (becomes_prune ih.consistent.simple hprune)
  | classify r hlabel ih =>
    exact ih.trans (sameFrame_of_relabelled (relabelled_classify _ _ _ hlabel)).becomes
  | runChain labels r ih =>
    exact ih.trans (sameFrame_of_relabelled (relabelled_classifyAll _ {} labels)).becomes
  | modify s r hf ih => exact ih.trans (SameFrame.modify _ s hf).becomes

theorem Reached.consistent {g : Graph} (r : Reached g) : g.Consistent :=
  r.becomes.consistent

theorem Reached.indexed {g : Graph} (r : Reached g) :
    Becomes .empty g ∧ (∀ config, ∃ h report, g.prune config = .ok (h, report)) ∧
      ∀ cs, Leads .empty cs g → (IndexedGraph.ofChanges cs).ReadsAs g ∧
        (IndexedGraph.ofChanges cs).Sound ∧ (IndexedGraph.ofChanges cs).Steady := by
  have hg := r.consistent
  refine ⟨r.becomes, ?_, ?_⟩
  · intro config
    obtain ⟨h, report, hok, _⟩ := prune_ok hg.simple config
    exact ⟨_, _, hok⟩
  · intro cs leads
    have ht := IndexedGraph.inStep_ofChanges leads
    exact ⟨ht.readsAs hg, ht.sound hg, ht.steady hg⟩

def plainNode (id : String) (isRoot : Bool) : Node :=
  ⟨id, "p", id, 0, [], some { text := id }, isRoot, .empty, none⟩

def retaken : List Change :=
  [.add (plainNode "p_1" true), .add (plainNode "p_2" false), .join 0 1, .remove 0,
    .add (plainNode "p_1" false), .join 1 0]

theorem Reached.apply_add {g : Graph} (r : Reached g) (n : Node) : Reached (g.apply (.add n)) := by
  rw [Graph.apply]
  split
  · next hadd => exact r.addNode hadd
  · exact r

theorem reached_retaken :
    Leads .empty retaken (retaken.foldl apply .empty) ∧ Reached (retaken.foldl apply .empty) := by
  constructor
  · exact .cons trivial (.cons trivial (.cons ⟨by decide, by decide⟩ (.cons trivial
      (.cons trivial (.cons ⟨by decide, by decide⟩ (.nil _))))))
  · have htwo := (Reached.empty.apply_add (plainNode "p_1" true)).apply_add (plainNode "p_2" false)
    have hjoined := htwo.addEdge (p := 0) (c := 1) (by decide) (by decide)
    have hagain := (hjoined.removeNode 0).apply_add (plainNode "p_1" false)
    exact hagain.addEdge (p := 1) (c := 0) (by decide) (by decide)

theorem Reached.indexed_retaken :
    ∃ t, IndexedGraph.ofChanges retaken = t ∧ t.Sound ∧ t.Steady ∧ t.slotOf? "p_1" = some 0 ∧
      t.lookup "p_1" = .ok (plainNode "p_1" false) ∧ t.children 0 = [] ∧ t.children 1 = [0] := by
  obtain ⟨leads, r⟩ := reached_retaken
  obtain ⟨_, _, hall⟩ := Reached.indexed r
  obtain ⟨hreads, hsound, hsteady⟩ := hall retaken leads
  refine ⟨_, rfl, hsound, hsteady, ?_, ?_, ?_, ?_⟩
  · rw [hreads.slotOf]
    decide
  · rw [hreads.lookup]
    rfl
  · rw [hreads.children]
    decide
  · rw [hreads.children]
    decide

end Graph

end PageGraph
