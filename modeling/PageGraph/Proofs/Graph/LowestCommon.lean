import PageGraph.Proofs.Graph.Ancestry

namespace PageGraph.Graph

structure LowestCommon (g : Graph) (a b t : Slot) : Prop where
  left : t ∈ g.ancestors a
  right : t ∈ g.ancestors b
  lowest : ∀ u ∈ g.ancestors a, u ∈ g.ancestors b → u ∈ g.ancestors t

theorem LowestCommon.symm {g : Graph} {a b t : Slot} (h : g.LowestCommon a b t) :
    g.LowestCommon b a t :=
  ⟨h.right, h.left, fun u hb ha => h.lowest u ha hb⟩

def NearestCommon (g : Graph) (a b t : Slot) : Prop :=
  ∃ d, g.hops? a t = some d ∧ ∀ u ∈ g.ancestors a, u ∈ g.ancestors b →
    ∀ e, g.hops? a u = some e → d ≤ e

theorem lca?_isSome_iff_exists (g : Graph) (a b : Slot) :
    (g.lca? a b).isSome = true ↔ ∃ t, t ∈ g.ancestors a ∧ t ∈ g.ancestors b := by
  rw [lca?_eq_meeting?, meeting?, List.find?_isSome]
  simp only [List.contains_iff_mem, and_comm]

section Acyclic

variable {g : Graph} (hg : ∀ s, ¬ Relation.TransGen g.Up s s)
include hg

theorem drop_ancestors {s t : Slot} {d : Nat} (h : (g.ancestors s)[d]? = some t) :
    (g.ancestors s).drop d = g.ancestors t := by
  induction d generalizing s with
  | zero =>
    rw [← List.head?_eq_getElem?, head?_ancestors, Option.some.injEq] at h
    rw [List.drop_zero, h]
  | succ d ih =>
    cases hp : g.parent? s with
    | none => simp [ancestors, chain, hp] at h
    | some p =>
      rw [ancestors_of_up hg hp] at h ⊢
      exact ih h

theorem drop_ancestors_of_hops? {s t : Slot} {d : Nat} (h : g.hops? s t = some d) :
    (g.ancestors s).drop d = g.ancestors t :=
  drop_ancestors hg (hops?_eq_some_imp h)

theorem hops?_eq_some_iff {s t : Slot} {d : Nat} :
    g.hops? s t = some d ↔ (g.ancestors s)[d]? = some t := by
  refine ⟨hops?_eq_some_imp, fun h => ?_⟩
  obtain ⟨e, he⟩ := exists_hops? (List.mem_of_getElem? h)
  have hsame := (hops?_eq_some_imp he).trans h.symm
  have hlt := (List.getElem?_eq_some_iff.mp (hops?_eq_some_imp he)).1
  have hde : e = d := (List.getElem?_inj hlt (nodup_chain hg _ s)).mp hsame
  rwa [hde] at he

theorem ancestors_suffix {s t : Slot} (h : t ∈ g.ancestors s) :
    g.ancestors t <:+ g.ancestors s := by
  obtain ⟨d, hd⟩ := exists_hops? h
  rw [← drop_ancestors_of_hops? hg hd]
  exact List.drop_suffix d _

theorem mem_ancestors_trans {s t u : Slot} (ht : t ∈ g.ancestors s) (hu : u ∈ g.ancestors t) :
    u ∈ g.ancestors s :=
  (ancestors_suffix hg ht).subset hu

theorem mem_ancestors_antisymm {s t : Slot} (hst : t ∈ g.ancestors s) (hts : s ∈ g.ancestors t) :
    s = t := by
  have hsuffix := ancestors_suffix hg hst
  have hsame : g.ancestors t = g.ancestors s :=
    hsuffix.eq_of_length (Nat.le_antisymm hsuffix.length_le (ancestors_suffix hg hts).length_le)
  have hhead := congrArg List.head? hsame
  rw [head?_ancestors, head?_ancestors] at hhead
  exact (Option.some.inj hhead).symm

theorem lowestCommon_of_lca? {a b t : Slot} (h : g.lca? a b = some t) : g.LowestCommon a b t := by
  rw [lca?_eq_meeting?, meeting?] at h
  obtain ⟨hleft, below, above, hsplit, hbelow⟩ := List.find?_eq_some_iff_append.mp h
  have hright : t ∈ g.ancestors b := List.mem_of_find?_eq_some h
  refine ⟨List.contains_iff_mem.mp hleft, hright, ?_⟩
  intro u hua hub
  -- Nothing below the meeting is common, and the rest of the way is the way up from there.
  have hmeet : (g.ancestors b)[below.length]? = some t := by simp [hsplit]
  have hrest := drop_ancestors hg hmeet
  rw [hsplit, List.drop_left] at hrest
  rw [hsplit] at hub
  rcases List.mem_append.mp hub with hu | hu
  · have hout := hbelow u hu
    rw [List.contains_iff_mem.mpr hua] at hout
    contradiction
  · rwa [hrest] at hu

theorem lca?_eq_some_iff {a b t : Slot} : g.lca? a b = some t ↔ g.LowestCommon a b t := by
  refine ⟨lowestCommon_of_lca? hg, fun h => ?_⟩
  obtain ⟨u, hu⟩ := Option.isSome_iff_exists.mp
    ((g.lca?_isSome_iff_exists a b).mpr ⟨t, h.left, h.right⟩)
  have hlow := lowestCommon_of_lca? hg hu
  rw [hu, mem_ancestors_antisymm hg (hlow.lowest t h.left h.right)
    (h.lowest u hlow.left hlow.right)]

theorem lca?_comm (a b : Slot) : g.lca? a b = g.lca? b a := by
  ext t
  rw [lca?_eq_some_iff hg, lca?_eq_some_iff hg]
  exact ⟨LowestCommon.symm, LowestCommon.symm⟩

theorem bind_lca?_eq_some_iff {a b c t : Slot} :
    (g.lca? a b).bind (g.lca? · c) = some t ↔
      (t ∈ g.ancestors a ∧ t ∈ g.ancestors b ∧ t ∈ g.ancestors c) ∧
        ∀ u ∈ g.ancestors a, u ∈ g.ancestors b → u ∈ g.ancestors c → u ∈ g.ancestors t := by
  simp only [Option.bind_eq_some_iff, lca?_eq_some_iff hg]
  constructor
  · rintro ⟨d, hd, ht⟩
    refine ⟨⟨mem_ancestors_trans hg hd.left ht.left, mem_ancestors_trans hg hd.right ht.left,
      ht.right⟩, ?_⟩
    intro u ha hb hc
    exact ht.lowest u (hd.lowest u ha hb) hc
  · rintro ⟨⟨ha, hb, hc⟩, hlowest⟩
    obtain ⟨d, hd⟩ := Option.isSome_iff_exists.mp
      ((g.lca?_isSome_iff_exists a b).mpr ⟨t, ha, hb⟩)
    have hlow := lowestCommon_of_lca? hg hd
    refine ⟨d, hlow, hlow.lowest t ha hb, hc, ?_⟩
    intro u hu hc
    exact hlowest u (mem_ancestors_trans hg hlow.left hu) (mem_ancestors_trans hg hlow.right hu) hc

theorem lca?_assoc (a b c : Slot) :
    (g.lca? a b).bind (g.lca? · c) = (g.lca? b c).bind (g.lca? a) := by
  have hswap : (g.lca? b c).bind (g.lca? a) = (g.lca? b c).bind (g.lca? · a) := by
    simp only [lca?_comm hg a]
  rw [hswap]
  ext t
  rw [bind_lca?_eq_some_iff hg, bind_lca?_eq_some_iff hg]
  constructor
  · rintro ⟨⟨ha, hb, hc⟩, hlowest⟩
    exact ⟨⟨hb, hc, ha⟩, fun u hub huc hua => hlowest u hua hub huc⟩
  · rintro ⟨⟨hb, hc, ha⟩, hlowest⟩
    exact ⟨⟨ha, hb, hc⟩, fun u hua hub huc => hlowest u hub huc hua⟩

theorem hops?_add {s t u : Slot} {d e : Nat} (hd : g.hops? s t = some d)
    (he : g.hops? t u = some e) : g.hops? s u = some (d + e) := by
  rw [hops?_eq_some_iff hg, ← List.getElem?_drop, drop_ancestors_of_hops? hg hd]
  exact hops?_eq_some_imp he

theorem LowestCommon.nearest {a b t : Slot} (h : g.LowestCommon a b t) : g.NearestCommon a b t := by
  obtain ⟨d, hd⟩ := exists_hops? h.left
  refine ⟨d, hd, fun u ha hb e he => ?_⟩
  obtain ⟨k, hk⟩ := exists_hops? (h.lowest u ha hb)
  have hsum := Option.some.inj ((hops?_add hg hd hk).symm.trans he)
  omega

end Acyclic

theorem lca?_lowest_common (g : Graph) (hg : ∀ s, ¬ Relation.TransGen g.Up s s) :
    (∀ a b, g.lca? a b = g.lca? b a) ∧
      (∀ a b, (g.lca? a b).isSome = true ↔ ∃ t, t ∈ g.ancestors a ∧ t ∈ g.ancestors b) ∧
      (∀ a b t, g.lca? a b = some t →
        g.LowestCommon a b t ∧ g.NearestCommon a b t ∧ g.NearestCommon b a t) ∧
      (∀ a b c, (g.lca? a b).bind (g.lca? · c) = (g.lca? b c).bind (g.lca? a)) ∧
      (∀ x y, g.isAncestor x y = true ↔ x ∈ g.ancestors y) ∧
      (∀ x, g.isAncestor x x = true) ∧
      (∀ x y, g.isAncestor x y = true → g.isAncestor y x = true → x = y) ∧
      ∀ x y z, g.isAncestor x y = true → g.isAncestor y z = true → g.isAncestor x z = true := by
  refine ⟨lca?_comm hg, g.lca?_isSome_iff_exists, ?_, lca?_assoc hg, isAncestor_iff hg,
    g.isAncestor_self, ?_, ?_⟩
  · intro a b t h
    have hlow := lowestCommon_of_lca? hg h
    exact ⟨hlow, hlow.nearest hg, hlow.symm.nearest hg⟩
  · intro x y hxy hyx
    rw [isAncestor_iff hg] at hxy hyx
    exact mem_ancestors_antisymm hg hyx hxy
  · intro x y z hxy hyz
    rw [isAncestor_iff hg] at hxy hyz ⊢
    exact mem_ancestors_trans hg hyz hxy

def orphans : Graph where
  slots := #[
    none,
    some ⟨"ul_1", "ul", "ul", 1, [], none, true, .empty, some 0⟩,
    some ⟨"ol_1", "ol", "ol", 2, [], none, true, .empty, some 0⟩,
    some ⟨"li_1", "li", "li", 3, [], none, false, .empty, some 1⟩,
    some ⟨"p_1", "p", "p", 4, [], none, true, .empty, none⟩]
  free := [0]
  edges := [(1, 3)]

theorem lca?_lowest_common_orphans :
    (∀ s, ¬ Relation.TransGen orphans.Up s s) ∧ orphans.lca? 2 3 = some 0 ∧
      orphans.LowestCommon 3 2 0 ∧ orphans.NearestCommon 3 2 0 := by
  have hg : ∀ s, ¬ Relation.TransGen orphans.Up s s := acyclic_of_descending (by decide)
  obtain ⟨hcomm, _, hlowest, _⟩ := lca?_lowest_common orphans hg
  have hmeet : orphans.lca? 3 2 = some 0 := by decide
  obtain ⟨hlow, hnear, _⟩ := hlowest 3 2 0 hmeet
  exact ⟨hg, (hcomm 2 3).trans hmeet, hlow, hnear⟩

end PageGraph.Graph
