import PageGraph.Graph.OfDocument
import PageGraph.Proofs.Except
import PageGraph.Proofs.Graph.Forest

namespace PageGraph

open Markup

namespace Graph

def planted (g : Graph) (n : Node) : Graph :=
  { g with
    slots := g.slots.push (some n)
    edges := g.edges ++ (n.parent.map (·, g.slots.size)).toList }

theorem node?_planted (g : Graph) (n : Node) (s : Slot) :
    (g.planted n).node? s = if s = g.slots.size then some n else g.node? s := by
  simp only [planted, node?, Array.getElem?_push]
  split <;> simp

theorem mem_edges_planted (g : Graph) (n : Node) (e : Slot × Slot) :
    e ∈ (g.planted n).edges ↔ e ∈ g.edges ∨ n.parent = some e.1 ∧ e.2 = g.slots.size := by
  obtain ⟨p, c⟩ := e
  simp only [planted, List.mem_append, Option.mem_toList, Option.map_eq_some_iff,
    Prod.mk.injEq]
  constructor
  · rintro (he | ⟨q, hq, rfl, rfl⟩)
    · exact .inl he
    · exact .inr ⟨hq, rfl⟩
  · rintro (he | ⟨hp, rfl⟩)
    · exact .inl he
    · exact .inr ⟨p, hp, rfl, rfl⟩

theorem contains_planted (g : Graph) (n : Node) (s : Slot) :
    (g.planted n).contains s = true ↔ s = g.slots.size ∨ g.contains s = true := by
  simp only [contains, node?_planted]
  split <;> simp_all

theorem parents_planted {g : Graph} (hchild : ∀ e ∈ g.edges, e.2 < g.slots.size) (n : Node)
    (s : Slot) :
    (g.planted n).parents s = if s = g.slots.size then n.parent.toList else g.parents s := by
  have hold : g.parents g.slots.size = [] := by
    apply List.eq_nil_iff_forall_not_mem.mpr
    intro p hp
    exact Nat.lt_irrefl _ (hchild _ ((mem_parents g _ p).mp hp))
  have hsplit : (g.planted n).parents s =
      g.parents s ++ if s = g.slots.size then n.parent.toList else [] := by
    simp only [parents, planted, List.filter_append, List.map_append]
    congr 1
    cases n.parent with
    | none => simp
    | some p =>
      by_cases hs : s = g.slots.size
      · simp [hs]
      · simp [hs, Ne.symm hs]
  rw [hsplit]
  split
  · next hs => rw [hs, hold, List.nil_append]
  · exact List.append_nil _

theorem slotOf?_planted_eq_none_iff (g : Graph) (n : Node) (id : String) :
    (g.planted n).slotOf? id = none ↔ g.slotOf? id = none ∧ n.id ≠ id := by
  simp only [slotOf?_eq_none_iff, node?_planted]
  constructor
  · intro h
    constructor
    · intro s m hm
      have hs : s ≠ g.slots.size := Nat.ne_of_lt (lt_size_of_node? g s m hm)
      exact h s m (by rw [if_neg hs, hm])
    · exact h g.slots.size n (by rw [if_pos rfl])
  · rintro ⟨hold, hnew⟩ s m hm
    split at hm
    · exact Option.some.inj hm ▸ hnew
    · exact hold s m hm

structure Grown (g : Graph) : Prop where
  simple : g.Simple
  full : g.free = []
  ascending : ∀ e ∈ g.edges, e.1 < e.2
  parents : ∀ s n, g.node? s = some n → g.parents s = n.parent.toList
  isRoot : ∀ s n, g.node? s = some n → n.isRoot = n.parent.isNone

theorem grown_empty : empty.Grown := by
  refine ⟨simple_empty, rfl, ?_, ?_, ?_⟩ <;> simp [empty, node?]

theorem Grown.planted {g : Graph} (hg : g.Grown) (n : Node)
    (hparent : ∀ p, n.parent = some p → g.contains p = true) (hroot : n.isRoot = n.parent.isNone) :
    (g.planted n).Grown := by
  have hlt (p : Slot) (hp : n.parent = some p) : p < g.slots.size := by
    obtain ⟨m, hm⟩ := (contains_iff g p).mp (hparent p hp)
    exact lt_size_of_node? g p m hm
  refine ⟨⟨?_, ?_⟩, hg.full, ?_, ?_, ?_⟩
  · refine List.nodup_append.mpr ⟨hg.simple.nodup, ?_, ?_⟩
    · cases n.parent <;> simp
    · rintro e he _ hnew rfl
      obtain ⟨p, _, rfl⟩ := Option.map_eq_some_iff.mp (Option.mem_toList.mp hnew)
      exact Nat.lt_irrefl _ (hg.simple.lt_size he).2
  · intro e he
    rw [contains_planted, contains_planted]
    rcases (mem_edges_planted g n e).mp he with he | ⟨hp, hc⟩
    · exact ⟨.inr (hg.simple.live e he).1, .inr (hg.simple.live e he).2⟩
    · exact ⟨.inr (hparent e.1 hp), .inl hc⟩
  · intro e he
    rcases (mem_edges_planted g n e).mp he with he | ⟨hp, hc⟩
    · exact hg.ascending e he
    · exact hc ▸ hlt e.1 hp
  · intro s m hm
    rw [node?_planted] at hm
    rw [parents_planted hg.simple.child_lt_size]
    split at hm
    · next hs => rw [if_pos hs, Option.some.inj hm]
    · next hs => rw [if_neg hs, hg.parents s m hm]
  · intro s m hm
    rw [node?_planted] at hm
    split at hm
    · exact Option.some.inj hm ▸ hroot
    · exact hg.isRoot s m hm

theorem Grown.rooted {g : Graph} (hg : g.Grown) : g.Rooted := by
  refine ⟨⟨hg.simple, ?_, ?_⟩, ?_, ?_⟩
  · intro p q s hp hq
    obtain ⟨n, hn⟩ := (contains_iff g s).mp (hg.simple.contains_right hp)
    have hp := (mem_parents g s p).mpr hp
    have hq := (mem_parents g s q).mpr hq
    rw [hg.parents s n hn, Option.mem_toList] at hp hq
    exact Option.some.inj (hp.symm.trans hq)
  · intro s hs
    have hlt : s < s := rank_lt_of_reaches id (fun _ _ he => hg.ascending _ he) hs
    exact Nat.lt_irrefl s hlt
  · intro s n hn
    rw [hg.parents s n hn]
    cases n.parent <;> rfl
  · intro s n hn
    rw [hg.isRoot s n hn, inDegree, hg.parents s n hn]
    cases n.parent <;> simp

end Graph

theorem Sprout.exists_of_element (config : BuildConfig) (tag : String)
    (attributes : List (String × String)) (children : List Content)
    (htag : config.deniesTag tag = false)
    (htext : config.deniesText (Text.lower (Text.trim
      (String.join (Content.textsOfAll children)))) = false) :
    ∃ s, of? config (.element tag attributes children) = some s ∧ s.tag = tag ∧
      s.inside = insideOf tag children := by
  simp [of?, htag, htext]

namespace Growth

def grow (g : Growth) (s : Sprout) (parent : Option Slot) : Growth where
  graph := g.graph.planted (g.nodeOf s parent)
  counts := g.counts.insert s.tag (g.counts.getD s.tag 0 + 1)
  index := g.index + 1

theorem add_eq {g : Growth} (hfull : g.graph.free = [])
    (hchild : ∀ e ∈ g.graph.edges, e.2 < g.graph.slots.size) (s : Sprout) (parent : Option Slot) :
    g.add s parent =
      if (g.graph.slotOf? (g.nodeOf s parent).id).isSome
      then .error (.duplicateNode (g.nodeOf s parent).id)
      else .ok (g.grow s parent, g.graph.slots.size) := by
  unfold add Graph.addNode
  split
  · rfl
  · rw [hfull]
    have hparent : (g.nodeOf s parent).parent = parent := rfl
    cases parent with
    | none => simp [bind, Except.bind, pure, Except.pure, grow, Graph.planted, hparent, hfull]
    | some p =>
      have hnew : (p, g.graph.slots.size) ∉ g.graph.edges := by
        intro h
        exact Nat.lt_irrefl _ (hchild _ h)
      simp [bind, Except.bind, pure, Except.pure, grow, Graph.planted, hparent, Graph.addEdge,
        Graph.hasEdge, hnew, hfull]

theorem add_ok {g : Growth} (hg : g.graph.Grown) (s : Sprout) (parent : Option Slot)
    (hid : g.graph.slotOf? (g.nodeOf s parent).id = none) :
    g.add s parent = .ok (g.grow s parent, g.graph.slots.size) := by
  rw [add_eq hg.full hg.simple.child_lt_size, hid]
  rfl

theorem grown_grow {g : Growth} (hg : g.graph.Grown) (s : Sprout) (parent : Option Slot)
    (hparent : ∀ p, parent = some p → g.graph.contains p = true) :
    (g.grow s parent).graph.Grown :=
  hg.planted _ hparent rfl

theorem idPrefix_nodeOf (g : Growth) (s : Sprout) (parent : Option Slot)
    (htag : '_' ∉ s.tag.toList) : (g.nodeOf s parent).idPrefix = s.tag.toList := by
  have hid : (g.nodeOf s parent).id.toList =
      s.tag.toList ++ '_' :: (nameDigits (g.nodeOf s parent).name).toList := by
    simp [nodeOf]
  rw [Node.idPrefix, hid, List.takeWhile_append_of_pos]
  · simp
  · intro c hc
    simp only [ne_eq, decide_eq_true_eq]
    rintro rfl
    exact htag hc

theorem id_ne_of_tag_ne (g h : Growth) (s t : Sprout) (p q : Option Slot)
    (hs : '_' ∉ s.tag.toList) (ht : '_' ∉ t.tag.toList) (hst : s.tag ≠ t.tag) :
    (g.nodeOf s p).id ≠ (h.nodeOf t q).id := by
  intro hid
  have hprefix : (g.nodeOf s p).idPrefix = (h.nodeOf t q).idPrefix := by
    rw [Node.idPrefix, Node.idPrefix, hid]
  rw [idPrefix_nodeOf g s p hs, idPrefix_nodeOf h t q ht] at hprefix
  exact hst (String.toList_inj.mp hprefix)

theorem run_skip (config : BuildConfig) (g : Growth) (c : Content) (parent : Option Slot)
    (rest : List (Content × Option Slot)) (h : Sprout.of? config c = none) :
    run config g ((c, parent) :: rest) = run config g rest := by
  rw [run]
  split
  · rfl
  · next s hs =>
    rw [h] at hs
    contradiction

theorem run_add (config : BuildConfig) (g : Growth) (c : Content) (parent : Option Slot)
    (rest : List (Content × Option Slot)) (s : Sprout) (h : Sprout.of? config c = some s) :
    run config g ((c, parent) :: rest) =
      (g.add s parent).bind fun (g, slot) =>
        run config g (s.inside.map (·, some slot) ++ rest) := by
  rw [run]
  split
  · next hs =>
    rw [h] at hs
    contradiction
  · next t ht =>
    rw [h] at ht
    cases ht
    rfl

theorem run_grow (config : BuildConfig) {g : Growth} (hg : g.graph.Grown) (c : Content)
    (parent : Option Slot) (rest : List (Content × Option Slot)) (s : Sprout)
    (h : Sprout.of? config c = some s)
    (hid : g.graph.slotOf? (g.nodeOf s parent).id = none) :
    run config g ((c, parent) :: rest) =
      run config (g.grow s parent) (s.inside.map (·, some g.graph.slots.size) ++ rest) := by
  rw [run_add config g c parent rest s h, add_ok hg s parent hid]
  rfl

def Anchored (g : Graph) (stack : List (Content × Option Slot)) : Prop :=
  ∀ c p, (c, some p) ∈ stack → g.contains p = true

theorem grown_run (config : BuildConfig) (g g' : Growth) (stack : List (Content × Option Slot))
    (hg : g.graph.Grown) (hs : Anchored g.graph stack) (h : run config g stack = .ok g') :
    g'.graph.Grown := by
  induction g, stack using run.induct config with
  | case1 g =>
    rw [run, Except.ok.injEq] at h
    exact h ▸ hg
  | case2 g c parent rest hnone ih =>
    rw [run_skip config g c parent rest hnone] at h
    exact ih hg (fun d p hd => hs d p (List.mem_cons_of_mem _ hd)) h
  | case3 g c parent rest s hsome ih =>
    rw [run_add config g c parent rest s hsome, add_eq hg.full hg.simple.child_lt_size] at h
    split at h
    · contradiction
    · refine ih _ _ (grown_grow hg s parent ?_) ?_ h
      · intro p hp
        exact hs c p (hp ▸ List.mem_cons_self)
      · intro d p hd
        rw [grow, Graph.contains_planted]
        rcases List.mem_append.mp hd with hd | hd
        · obtain ⟨_, _, heq⟩ := List.mem_map.mp hd
          exact .inl (Option.some.inj (Prod.mk.inj heq).2).symm
        · exact .inr (hs d p (List.mem_cons_of_mem _ hd))

end Growth

theorem Graph.rooted_ofDocument {config : BuildConfig} {d : Document} {g : Graph}
    (h : Graph.ofDocument config d = .ok g) : g.Rooted := by
  obtain ⟨built, hrun, hbuilt⟩ := bind_eq_ok.mp h
  have hstack : Growth.Anchored empty (d.children.map (·, none)) := by
    intro c p hc
    simp at hc
  rw [← Except.ok.inj hbuilt]
  exact (Growth.grown_run config {} built _ grown_empty hstack hrun).rooted

end PageGraph
