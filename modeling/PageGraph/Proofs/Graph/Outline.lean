import PageGraph.Graph.Render
import PageGraph.Proofs.Graph.Forest

namespace PageGraph.Graph

def deeper (depth : Nat) (entry : Slot × Nat) : Slot × Nat :=
  (entry.1, depth + entry.2)

theorem map_fst_deeper (depth : Nat) (out : List (Slot × Nat)) :
    (out.map (deeper depth)).map (·.1) = out.map (·.1) := by
  rw [List.map_map]
  rfl

theorem map_deeper_deeper (a b : Nat) (out : List (Slot × Nat)) :
    (out.map (deeper a)).map (deeper b) = out.map (deeper (b + a)) := by
  rw [List.map_map]
  refine List.map_congr_left fun e _ => ?_
  simp only [Function.comp_apply, deeper, Nat.add_assoc]

/-- What a walk lists from where it takes a node from the stack until it comes to the rest of the
stack, if nothing below the node has been visited. -/
structure Outlines (g : Graph) (s : Slot) (out : List (Slot × Nat)) : Prop where
  mem : ∀ t, t ∈ out.map (·.1) ↔ Relation.ReflTransGen g.Edge s t
  nodup : (out.map (·.1)).Nodup
  walk : ∀ steps visited stack depth, (∀ t ∈ out.map (·.1), t ∉ visited) →
    ∃ visited', (∀ t, t ∈ visited' ↔ t ∈ visited ∨ t ∈ out.map (·.1)) ∧
      g.walk (out.length + steps) visited ((s, depth) :: stack) =
        out.map (deeper depth) ++ g.walk steps visited' stack

theorem walk_children {g : Graph} {cs : List Slot} {outs : Slot → List (Slot × Nat)}
    (hcs : ∀ c ∈ cs, g.Outlines c (outs c)) (hnd : ((cs.flatMap outs).map (·.1)).Nodup)
    (steps : Nat) (visited : List Slot) (stack : List (Slot × Nat)) (depth : Nat)
    (hfresh : ∀ t ∈ (cs.flatMap outs).map (·.1), t ∉ visited) :
    ∃ visited', (∀ t, t ∈ visited' ↔ t ∈ visited ∨ t ∈ (cs.flatMap outs).map (·.1)) ∧
      g.walk ((cs.flatMap outs).length + steps) visited (cs.map (·, depth) ++ stack) =
        (cs.flatMap outs).map (deeper depth) ++ g.walk steps visited' stack := by
  induction cs generalizing visited with
  | nil => exact ⟨visited, by simp, by simp⟩
  | cons c cs ih =>
    rw [List.flatMap_cons, List.map_append] at hnd hfresh ⊢
    obtain ⟨_, hnd', hdisjoint⟩ := List.nodup_append.mp hnd
    obtain ⟨v, hv, hwalk⟩ := (hcs c List.mem_cons_self).walk ((cs.flatMap outs).length + steps)
      visited (cs.map (·, depth) ++ stack) depth fun t ht => hfresh t (List.mem_append_left _ ht)
    obtain ⟨w, hw, hrest⟩ := ih (fun d hd => hcs d (List.mem_cons_of_mem _ hd)) hnd' v (by
      intro t ht
      rw [hv, not_or]
      exact ⟨hfresh t (List.mem_append_right _ ht), fun hc => hdisjoint t hc t ht rfl⟩)
    refine ⟨w, ?_, ?_⟩
    · intro t
      rw [hw, hv, List.mem_append, or_assoc]
    · rw [List.length_append, Nat.add_assoc, List.map_cons, List.cons_append, hwalk, hrest,
        List.map_append, List.append_assoc]

namespace Forest

variable {g : Graph}

theorem eq_of_common_below (hg : g.Forest) {s c d t : Slot} (hc : g.Edge s c) (hd : g.Edge s d)
    (hct : Relation.ReflTransGen g.Edge c t) (hdt : Relation.ReflTransGen g.Edge d t) : c = d := by
  have habove {a b : Slot} (ha : g.Edge s a) (hb : g.Edge s b)
      (hab : Relation.ReflTransGen g.Edge a b) : a = b := by
    rcases Relation.reflTransGen_iff_eq_or_transGen.mp hab with rfl | hab
    · rfl
    · obtain ⟨p, hap, hpb⟩ := Relation.TransGen.tail'_iff.mp hab
      obtain rfl := hg.unique p s b hpb hb
      exact absurd (Relation.TransGen.head' ha hap) (hg.acyclic p)
  have hunique : Relator.RightUnique (Function.swap g.Edge) :=
    fun _ _ _ hp hq => hg.unique _ _ _ hp hq
  rcases Relation.ReflTransGen.total_of_right_unique hunique
    (Relation.reflTransGen_swap.mpr hct) (Relation.reflTransGen_swap.mpr hdt) with h | h
  · exact (habove hd hc (Relation.reflTransGen_swap.mp h)).symm
  · exact habove hc hd (Relation.reflTransGen_swap.mp h)

theorem outlines_cons (hg : g.Forest) {s : Slot} {outs : Slot → List (Slot × Nat)}
    (houts : ∀ c ∈ g.children s, g.Outlines c (outs c)) :
    g.Outlines s ((s, 0) :: ((g.children s).flatMap outs).map (deeper 1)) := by
  have hbelow (t : Slot) : t ∈ ((g.children s).flatMap outs).map (·.1) ↔
      ∃ c, g.Edge s c ∧ Relation.ReflTransGen g.Edge c t := by
    rw [List.map_flatMap, List.mem_flatMap]
    constructor
    · rintro ⟨c, hc, ht⟩
      exact ⟨c, (mem_children g s c).mp hc, ((houts c hc).mem t).mp ht⟩
    · rintro ⟨c, hc, ht⟩
      have hc := (mem_children g s c).mpr hc
      exact ⟨c, hc, ((houts c hc).mem t).mpr ht⟩
  have hnot : s ∉ ((g.children s).flatMap outs).map (·.1) := by
    rw [hbelow]
    rintro ⟨c, hc, hcs⟩
    exact hg.acyclic s (Relation.TransGen.head' hc hcs)
  -- No two children have anything in common below them.
  have hnd : (((g.children s).flatMap outs).map (·.1)).Nodup := by
    rw [List.map_flatMap, List.nodup_flatMap]
    refine ⟨fun c hc => (houts c hc).nodup, ?_⟩
    refine (hg.simple.nodup_children s).imp_of_mem fun {c d} hc hd hne t hct hdt => hne ?_
    exact hg.eq_of_common_below ((mem_children g s c).mp hc) ((mem_children g s d).mp hd)
      (((houts c hc).mem t).mp hct) (((houts d hd).mem t).mp hdt)
  constructor
  · intro t
    rw [List.map_cons, map_fst_deeper, List.mem_cons, hbelow, Relation.ReflTransGen.cases_head_iff]
    exact or_congr_left eq_comm
  · rw [List.map_cons, map_fst_deeper]
    exact List.nodup_cons.mpr ⟨hnot, hnd⟩
  · intro steps visited stack depth hfresh
    rw [List.map_cons, map_fst_deeper] at hfresh ⊢
    obtain ⟨hs, hfresh⟩ := List.forall_mem_cons.mp hfresh
    obtain ⟨v, hv, hwalk⟩ := walk_children houts hnd steps (s :: visited) stack (depth + 1) (by
      intro t ht
      rw [List.mem_cons, not_or]
      exact ⟨fun hts => hnot (hts ▸ ht), hfresh t ht⟩)
    refine ⟨v, ?_, ?_⟩
    · intro t
      rw [hv, List.mem_cons, List.mem_cons]
      tauto
    · rw [List.length_cons, List.length_map, Nat.add_right_comm, Graph.walk,
        if_neg (by simpa using hs), hwalk, List.map_cons, map_deeper_deeper]
      rfl

end Forest

theorem Outlines.outline_eq {g : Graph} {s : Slot} {out : List (Slot × Nat)}
    (o : g.Outlines s out) : g.outline s = out := by
  have hsub : out.map (·.1) ⊆ s :: g.edges.map (·.2) := by
    intro t ht
    rcases Relation.ReflTransGen.cases_tail ((o.mem t).mp ht) with rfl | ⟨p, _, hp⟩
    · exact List.mem_cons_self
    · exact List.mem_cons_of_mem _ (List.mem_map.mpr ⟨(p, t), hp, rfl⟩)
  have hlength := (List.subperm_of_subset o.nodup hsub).length_le
  rw [List.length_map, List.length_cons, List.length_map] at hlength
  obtain ⟨steps, hsteps⟩ := Nat.exists_eq_add_of_le hlength
  obtain ⟨v, _, hwalk⟩ := o.walk steps [] [] 0 (by simp)
  have hdone : g.walk steps v [] = [] := by cases steps <;> rfl
  have hsame : out.map (deeper 0) = out := by
    have hid (e : Slot × Nat) (_ : e ∈ out) : deeper 0 e = id e := Prod.ext rfl (Nat.zero_add e.2)
    rw [List.map_congr_left hid, List.map_id]
  rw [outline, edgeCount, hsteps, hwalk, hdone, hsame, List.append_nil]

theorem Forest.outlines_outline {g : Graph} (hg : g.Forest) (s : Slot) :
    g.Outlines s (g.outline s) := by
  classical
  let below (s : Slot) : Finset Slot := g.live.filter fun t => Relation.TransGen g.Edge s t
  have hless (s c : Slot) (hc : g.Edge s c) : (below c).card < (below s).card := by
    apply Finset.card_lt_card
    refine (Finset.ssubset_iff_of_subset ?_).mpr ⟨c, ?_, ?_⟩
    · intro t ht
      obtain ⟨ht, hct⟩ := Finset.mem_filter.mp ht
      exact Finset.mem_filter.mpr ⟨ht, .head hc hct⟩
    · exact Finset.mem_filter.mpr ⟨(mem_live g c).mpr (hg.simple.contains_right hc), .single hc⟩
    · exact fun hcc => hg.acyclic c (Finset.mem_filter.mp hcc).2
  induction hcard : (below s).card using Nat.strong_induction_on generalizing s with
  | _ n ih =>
    have hcons := hg.outlines_cons fun c hc =>
      ih _ (hcard ▸ hless s c ((mem_children g s c).mp hc)) c rfl
    rw [hcons.outline_eq]
    exact hcons

theorem Forest.outline_eq {g : Graph} (hg : g.Forest) (s : Slot) :
    g.outline s = (s, 0) :: ((g.children s).flatMap g.outline).map (deeper 1) :=
  (hg.outlines_cons fun c _ => hg.outlines_outline c).outline_eq

end PageGraph.Graph
