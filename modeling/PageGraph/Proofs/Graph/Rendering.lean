import PageGraph.Proofs.Graph.Change
import PageGraph.Proofs.Graph.Distance
import PageGraph.Proofs.Graph.Outline

/-!
The rendering of a graph below a node. Nodes are marked where they are taken from the stack, so that
one can be on it several times. Nothing is taken more often than it was put there, nothing is listed
that is marked, and what is next to a listed node is marked or still on the stack: each node that
can be reached is listed once, whatever cycles lead back to it.
-/

namespace PageGraph.Graph

/-- The loop of the walk without a bound: what it lists until the stack is empty. -/
inductive Visits (g : Graph) : List Slot → List (Slot × Nat) → List (Slot × Nat) → Prop where
  | done (visited : List Slot) : Visits g visited [] []
  | skip {visited : List Slot} {s : Slot} {depth : Nat} {stack out : List (Slot × Nat)}
      (hs : s ∈ visited) (v : Visits g visited stack out) :
      Visits g visited ((s, depth) :: stack) out
  | visit {visited : List Slot} {s : Slot} {depth : Nat} {stack out : List (Slot × Nat)}
      (hs : s ∉ visited)
      (v : Visits g (s :: visited) ((g.children s).map (·, depth + 1) ++ stack) out) :
      Visits g visited ((s, depth) :: stack) ((s, depth) :: out)

def pending (g : Graph) (visited : List Slot) : List (Slot × Slot) :=
  g.edges.filter (·.1 ∉ visited)

variable {g : Graph}

theorem length_pending_cons {visited : List Slot} {s : Slot} (hs : s ∉ visited) :
    (g.children s).length + (g.pending (s :: visited)).length = (g.pending visited).length := by
  rw [children, pending, pending, List.length_map]
  induction g.edges with
  | nil => rfl
  | cons e es ih =>
    by_cases he : e.1 = s
    · simp [he, hs] at ih ⊢
      omega
    · by_cases hmem : e.1 ∈ visited
      · simpa [he, hmem] using ih
      · simp [he, hmem] at ih ⊢
        omega

theorem visits_walk {steps : Nat} {visited : List Slot} {stack : List (Slot × Nat)}
    (henough : stack.length + (g.pending visited).length ≤ steps) :
    g.Visits visited stack (g.walk steps visited stack) := by
  induction steps generalizing visited stack with
  | zero =>
    obtain rfl : stack = [] := List.eq_nil_of_length_eq_zero (by omega)
    exact .done visited
  | succ steps ih =>
    cases stack with
    | nil => exact .done visited
    | cons e stack =>
      obtain ⟨s, depth⟩ := e
      rw [walk]
      rw [List.length_cons] at henough
      split
      · next hs =>
        exact .skip (by simpa using hs) (ih (by omega))
      · next hs =>
        have hs : s ∉ visited := by simpa using hs
        have hcount := length_pending_cons (g := g) hs
        refine .visit hs (ih ?_)
        rw [List.length_append, List.length_map]
        omega

theorem visits_outline (g : Graph) (s : Slot) : g.Visits [] [(s, 0)] (g.outline s) := by
  apply visits_walk
  have hall := List.length_filter_le (·.1 ∉ ([] : List Slot)) g.edges
  rw [pending, edgeCount, List.length_singleton]
  omega

theorem Way.cons {s t u : Slot} {d : Nat} (h : g.Edge s t) (w : g.Way t d u) :
    g.Way s (d + 1) u := by
  induction w with
  | here => exact .step .here h
  | step _ he ih => exact ih.step he

theorem Way.reaches {s t : Slot} {d : Nat} (w : g.Way s d t) : Relation.ReflTransGen g.Edge s t := by
  induction w with
  | here => exact .refl
  | step _ he ih => exact ih.tail he

namespace Visits

variable {visited : List Slot} {stack out : List (Slot × Nat)}

theorem not_mem_visited (v : g.Visits visited stack out) :
    ∀ t ∈ out.map (·.1), t ∉ visited := by
  induction v with
  | done => simp
  | skip _ _ ih => exact ih
  | visit hs _ ih =>
    rw [List.map_cons, List.forall_mem_cons]
    exact ⟨hs, fun t ht => List.not_mem_of_not_mem_cons (ih t ht)⟩

theorem nodup (v : g.Visits visited stack out) : (out.map (·.1)).Nodup := by
  induction v with
  | done => exact List.nodup_nil
  | skip _ _ ih => exact ih
  | visit _ v ih =>
    rw [List.map_cons, List.nodup_cons]
    exact ⟨fun hmem => v.not_mem_visited _ hmem List.mem_cons_self, ih⟩

theorem mem_of_mem_stack (v : g.Visits visited stack out) :
    ∀ e ∈ stack, e.1 ∈ visited ∨ e.1 ∈ out.map (·.1) := by
  induction v with
  | done => simp
  | skip hs _ ih => exact List.forall_mem_cons.mpr ⟨.inl hs, ih⟩
  | visit _ _ ih =>
    refine List.forall_mem_cons.mpr ⟨.inr List.mem_cons_self, fun e he => ?_⟩
    have := ih e (List.mem_append_right _ he)
    rw [List.mem_cons] at this
    rw [List.map_cons, List.mem_cons]
    tauto

theorem closed (v : g.Visits visited stack out) :
    ∀ t ∈ out.map (·.1), ∀ u, g.Edge t u → u ∈ visited ∨ u ∈ out.map (·.1) := by
  induction v with
  | done => simp
  | skip _ _ ih => exact ih
  | @visit visited s depth stack out _ v ih =>
    have hmark (u : Slot) (hu : u ∈ s :: visited ∨ u ∈ out.map (·.1)) :
        u ∈ visited ∨ u ∈ ((s, depth) :: out).map (·.1) := by
      rw [List.mem_cons] at hu
      rw [List.map_cons, List.mem_cons]
      tauto
    rw [List.map_cons, List.forall_mem_cons]
    constructor
    · intro u hu
      have hstack : (u, depth + 1) ∈ (g.children s).map (·, depth + 1) ++ stack :=
        List.mem_append_left _ (List.mem_map.mpr ⟨u, (mem_children g s u).mpr hu, rfl⟩)
      exact hmark u (v.mem_of_mem_stack _ hstack)
    · intro t ht u hu
      exact hmark u (ih t ht u hu)

theorem exists_way (v : g.Visits visited stack out) :
    ∀ t d, (t, d) ∈ out → ∃ s e k, (s, e) ∈ stack ∧ g.Way s k t ∧ d = e + k := by
  induction v with
  | done => simp
  | skip _ _ ih =>
    intro t d htd
    obtain ⟨s, e, k, hs, w, hd⟩ := ih t d htd
    exact ⟨s, e, k, List.mem_cons_of_mem _ hs, w, hd⟩
  | @visit visited s depth stack out _ _ ih =>
    intro t d htd
    rcases List.mem_cons.mp htd with heq | htd
    · cases heq
      exact ⟨s, depth, 0, List.mem_cons_self, .here, rfl⟩
    · obtain ⟨c, e, k, hstack, w, hd⟩ := ih t d htd
      rcases List.mem_append.mp hstack with hchild | hrest
      · simp only [List.mem_map, Prod.mk.injEq] at hchild
        obtain ⟨_, hc, rfl, rfl⟩ := hchild
        have hedge := (mem_children g s _).mp hc
        exact ⟨s, depth, k + 1, List.mem_cons_self, w.cons hedge, by omega⟩
      · exact ⟨c, e, k, List.mem_cons_of_mem _ hrest, w, hd⟩

end Visits

structure Listing (g : Graph) (s : Slot) (out : List (Slot × Nat)) : Prop where
  visits : g.Visits [] [(s, 0)] out
  head : out.head? = some (s, 0)
  nodup : (out.map (·.1)).Nodup
  mem : ∀ t, t ∈ out.map (·.1) ↔ Relation.ReflTransGen g.Edge s t
  way : ∀ t d, (t, d) ∈ out → g.Way s d t

theorem Visits.listing {s : Slot} {out : List (Slot × Nat)} (v : g.Visits [] [(s, 0)] out) :
    g.Listing s out := by
  have hway (t : Slot) (d : Nat) (htd : (t, d) ∈ out) : g.Way s d t := by
    obtain ⟨s', e, k, hs, w, rfl⟩ := v.exists_way t d htd
    cases List.mem_singleton.mp hs
    rwa [Nat.zero_add]
  refine ⟨v, ?_, v.nodup, fun t => ⟨fun ht => ?_, fun ht => ?_⟩, hway⟩
  · cases v with
    | skip hs _ => cases hs
    | visit _ _ => rfl
  · obtain ⟨⟨t', d⟩, htd, rfl⟩ := List.mem_map.mp ht
    exact (hway t' d htd).reaches
  · induction ht with
    | refl => exact (v.mem_of_mem_stack _ List.mem_cons_self).resolve_left List.not_mem_nil
    | tail _ he ih => exact (v.closed _ ih _ he).resolve_left List.not_mem_nil

theorem Forest.way_inj (hg : g.Forest) {s t : Slot} {d e : Nat} (w : g.Way s d t)
    (v : g.Way s e t) : d = e := by
  have hback {p : Slot} {k : Nat} (w : g.Way s k p) : ¬ g.Edge p s :=
    fun he => hg.acyclic s (Relation.TransGen.tail' w.reaches he)
  induction w generalizing e with
  | here =>
    cases v with
    | here => rfl
    | step v he => exact absurd he (hback v)
  | step w he ih =>
    cases v with
    | here => exact absurd he (hback w)
    | step v he' =>
      obtain rfl := hg.unique _ _ _ he he'
      rw [ih v]

theorem Forest.mem_outline_iff (hg : g.Forest) (s t : Slot) (d : Nat) :
    (t, d) ∈ g.outline s ↔ g.Way s d t := by
  have hlisting := (visits_outline g s).listing
  refine ⟨hlisting.way t d, fun w => ?_⟩
  obtain ⟨⟨t', e⟩, hte, rfl⟩ := List.mem_map.mp ((hlisting.mem t).mpr w.reaches)
  rw [hg.way_inj w (hlisting.way t' e hte)]
  exact hte

theorem Simple.contains_of_reaches (hg : g.Simple) {s t : Slot} (hs : g.contains s = true)
    (h : Relation.ReflTransGen g.Edge s t) : g.contains t = true := by
  rcases Relation.ReflTransGen.cases_tail h with rfl | ⟨p, _, he⟩
  · exact hs
  · exact hg.contains_right he

theorem outlineLine_of_node? {entry : Slot × Nat} {n : Node} (hn : g.node? entry.1 = some n) :
    g.outlineLine entry = String.ofList (List.replicate (4 * entry.2) ' ') ++ n.line ++ "\n" := by
  rw [outlineLine, hn]

theorem render_eq_ok {id : String} {s : Slot} (hs : g.slotOf? id = some s) :
    g.render id = .ok (String.join ((g.outline s).map g.outlineLine)) := by
  rw [render, slotOf, hs]
  rfl

theorem render_eq_error {id : String} (hid : g.slotOf? id = none) :
    g.render id = .error (.unknownNode id) := by
  rw [render, slotOf, hid]
  rfl

theorem render_lists_reachable (hg : Becomes empty g) (id : String) :
    (∀ s n, g.node? s = some n → n.id = id →
      g.render id = .ok (String.join ((g.outline s).map g.outlineLine)) ∧
      g.Listing s (g.outline s) ∧
      (∀ entry ∈ g.outline s, ∃ m, g.node? entry.1 = some m ∧
        g.outlineLine entry =
          String.ofList (List.replicate (4 * entry.2) ' ') ++ m.line ++ "\n") ∧
      (g.Forest →
        g.outline s = (s, 0) :: ((g.children s).flatMap g.outline).map (deeper 1) ∧
        ∀ t hops, (t, hops) ∈ g.outline s ↔ g.Way s hops t)) ∧
    ((∀ s n, g.node? s = some n → n.id ≠ id) → g.render id = .error (.unknownNode id)) := by
  have hg := hg.consistent
  constructor
  · intro s n hn hid
    have hlisting := (visits_outline g s).listing
    have hs := (contains_iff g s).mpr ⟨n, hn⟩
    refine ⟨render_eq_ok ((hg.slotOf?_eq_some id s).mpr ⟨n, hn, hid⟩), hlisting, ?_, ?_⟩
    · intro entry hentry
      have hreach := (hlisting.mem entry.1).mp (List.mem_map_of_mem hentry)
      obtain ⟨m, hm⟩ := (contains_iff g entry.1).mp (hg.simple.contains_of_reaches hs hreach)
      exact ⟨m, hm, outlineLine_of_node? hm⟩
    · intro hforest
      exact ⟨hforest.outline_eq s, hforest.mem_outline_iff s⟩
  · intro hid
    exact render_eq_error ((slotOf?_eq_none_iff g id).mpr hid)

def bareNode (id : String) : Node :=
  ⟨id, "p", id, 0, [], none, false, .empty, none⟩

def tangle : List Change :=
  [.add (bareNode "p_1"), .add (bareNode "p_2"), .add (bareNode "p_3"),
    .join 0 1, .join 0 2, .join 1 2, .join 2 0, .join 2 2]

def tree : List Change :=
  [.add (bareNode "p_1"), .add (bareNode "p_2"), .add (bareNode "p_3"), .add (bareNode "p_4"),
    .join 0 2, .join 0 1, .join 2 3]

theorem becomes_tangle : Becomes empty (tangle.foldl apply empty) :=
  ⟨tangle, .cons trivial <| .cons trivial <| .cons trivial <|
    .cons ⟨by decide, by decide⟩ <| .cons ⟨by decide, by decide⟩ <|
    .cons ⟨by decide, by decide⟩ <| .cons ⟨by decide, by decide⟩ <|
    .cons ⟨by decide, by decide⟩ <| .nil _⟩

theorem becomes_tree : Becomes empty (tree.foldl apply empty) :=
  ⟨tree, .cons trivial <| .cons trivial <| .cons trivial <| .cons trivial <|
    .cons ⟨by decide, by decide⟩ <| .cons ⟨by decide, by decide⟩ <|
    .cons ⟨by decide, by decide⟩ <| .nil _⟩

theorem forest_tree : (tree.foldl apply empty).Forest :=
  forest_of_rank becomes_tree.consistent.simple (by decide) id (by decide)

theorem render_lists_reachable_tangle :
    (∃ g, Becomes empty g ∧ g.edges = [(0, 1), (0, 2), (1, 2), (2, 0), (2, 2)] ∧
      g.Listing 1 [(1, 0), (2, 1), (0, 2)] ∧
      g.render "p_2" = .ok "p [p_2]\n    p [p_3]\n        p [p_1]\n" ∧
      g.render "p_4" = .error (.unknownNode "p_4")) ∧
    ∃ g, Becomes empty g ∧ g.Forest ∧ g.outline 0 = [(0, 0), (2, 1), (3, 2), (1, 1)] ∧
      g.outline 0 = (0, 0) :: ((g.children 0).flatMap g.outline).map (deeper 1) := by
  constructor
  · have hg := render_lists_reachable becomes_tangle
    obtain ⟨hok, hlisting, _, _⟩ := (hg "p_2").1 1 (bareNode "p_2") rfl rfl
    have hids : ∀ e ∈ (tangle.foldl apply empty).nodes, e.2.id ≠ "p_4" := by decide
    refine ⟨_, becomes_tangle, by decide, hlisting, ?_, (hg "p_4").2 fun s n hn => ?_⟩
    · rw [hok]
      decide
    · exact hids (s, n) ((mem_nodes _ s n).mpr hn)
  · have hg := render_lists_reachable becomes_tree
    obtain ⟨_, _, _, hforest⟩ := (hg "p_1").1 0 (bareNode "p_1") rfl rfl
    exact ⟨_, becomes_tree, forest_tree, by decide, (hforest forest_tree).1⟩

end PageGraph.Graph
