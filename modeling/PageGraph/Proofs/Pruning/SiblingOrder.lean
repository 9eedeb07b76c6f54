import PageGraph.Proofs.Graph.InPreorder
import PageGraph.Proofs.Pruning.Forests

namespace PageGraph.Graph

theorem edges_addEdges {g : Graph} {es : List (Slot × Slot)} (hnd : es.Nodup)
    (hnew : ∀ e ∈ es, e ∉ g.edges) : (g.addEdges es).edges = g.edges ++ es := by
  unfold addEdges
  induction es generalizing g with
  | nil => simp
  | cons e es ih =>
    obtain ⟨hes, hnd⟩ := List.nodup_cons.mp hnd
    have he : (g.addEdge e.1 e.2).edges = g.edges ++ [e] := by
      have hno := hnew e List.mem_cons_self
      rw [addEdge, if_neg (mt (hasEdge_iff g e.1 e.2).mp hno)]
    rw [List.foldl_cons, ih hnd, he, List.append_assoc, List.singleton_append]
    intro d hd
    rw [mem_edges_addEdge, not_or]
    refine ⟨hnew d (List.mem_cons_of_mem _ hd), ?_⟩
    rintro rfl
    exact hes hd

theorem Forest.edges_dissolved {g : Graph} (hg : g.Forest) {s : Slot} {gone : Node}
    (hs : g.node? s = some gone) :
    (g.dissolved s gone).edges =
      g.edges.filter (fun e => e.1 ≠ s && e.2 ≠ s) ++ (g.parents s).product (g.children s) := by
  have hloop : ¬ g.Edge s s := fun he => hg.acyclic s (.single he)
  have hjoined : (g.bypassed s gone).edges =
      g.edges ++ (g.parents s).product (g.children s) := by
    rw [bypassed, edges_inheritAll, joinAll_eq_addEdges]
    apply edges_addEdges
    · exact (hg.simple.nodup_parents s).product (hg.simple.nodup_children s)
    · intro e he hold
      obtain ⟨hp, hc⟩ := List.mem_product.mp he
      have hps : g.Edge e.1 s := (mem_parents g s e.1).mp hp
      have heq := hg.unique e.1 s e.2 hold ((mem_children g s e.2).mp hc)
      exact hloop (heq ▸ hps)
  have hlive : (g.bypassed s gone).contains s = true := by
    rw [contains_bypassed hg.simple]
    exact (contains_iff g s).mpr ⟨gone, hs⟩
  have hkept : ((g.parents s).product (g.children s)).filter (fun e => e.1 ≠ s && e.2 ≠ s) =
      (g.parents s).product (g.children s) := by
    apply List.filter_eq_self.mpr
    intro e he
    obtain ⟨hp, hc⟩ := List.mem_product.mp he
    have hps : g.Edge e.1 s := (mem_parents g s e.1).mp hp
    have hsc : g.Edge s e.2 := (mem_children g s e.2).mp hc
    have h1 : e.1 ≠ s := fun h => hloop (h ▸ hps)
    have h2 : e.2 ≠ s := fun h => hloop (h ▸ hsc)
    simp [h1, h2]
  rw [Graph.dissolved, removeNode, if_pos hlive, hjoined, List.filter_append, hkept]

theorem InPreorder.lt_of_only_child {g : Graph} (hpre : g.InPreorder) (hg : g.Forest)
    {s c q t : Slot} (hsc : g.Edge s c) (honly : ∀ u, g.Edge s u → u = c) (hqt : g.Edge q t)
    (hsq : s < q) : c < t := by
  by_contra hct
  rcases Nat.lt_or_eq_of_le (Nat.le_of_not_lt hct) with htc | rfl
  · have hqc := Nat.lt_trans (hpre.ascending q t hqt) htc
    have hsq' := hpre.whole s q c (.single hsc) (hg.simple.contains_left hqt) hsq hqc.le
    obtain ⟨u, hsu, huq⟩ := Relation.TransGen.head'_iff.mp hsq'
    rcases Relation.reflTransGen_iff_eq_or_transGen.mp (honly u hsu ▸ huq) with rfl | hcq
    · exact Nat.lt_irrefl _ hqc
    · exact Nat.lt_asymm hqc (hpre.lt_of_reaches hcq)
  · exact absurd (hg.unique q s t hqt hsc) hsq.ne'

namespace Dissolves

variable {g h : Graph} {ss : List Slot}

theorem unique {h' : Graph} (d : Dissolves g ss h) (d' : Dissolves g ss h') : h = h' := by
  induction d with
  | nil g =>
    cases d'
    rfl
  | cons gone hs d ih =>
    cases d' with
    | cons gone' hs' d' =>
      cases hs.symm.trans hs'
      exact ih d'

/-- What goes, in preorder and with one child each, leaves the edges between the nodes that stay,
and behind them new ones in preorder, down to the children of what went. -/
theorem edges_eq (d : Dissolves g ss h) (hg : g.Forest) (hpre : g.InPreorder)
    (hss : ss.Pairwise (· < ·)) (hone : ∀ s ∈ ss, ∀ t u, g.Edge s t → g.Edge s u → t = u) :
    ∃ new, h.edges = g.edges.filter (fun e => h.contains e.1 && h.contains e.2) ++ new ∧
      new.Pairwise (·.2 < ·.2) ∧ ∀ e ∈ new, ∃ s ∈ ss, g.Edge s e.2 := by
  induction d with
  | nil g =>
    refine ⟨[], ?_, .nil, by simp⟩
    rw [List.append_nil, List.filter_eq_self.mpr]
    intro e he
    simp [hg.simple.live e he]
  | @cons g h s ss gone hs d ih =>
    obtain ⟨hfirst, hss⟩ := List.pairwise_cons.mp hss
    have hgs := (Graph.contains_iff g s).mpr ⟨gone, hs⟩
    have hg' := hg.dissolved s gone hs
    -- What still goes lies behind `s`, not above it, so it has the children that it had.
    have hold (q : Slot) (hq : q ∈ ss) (t : Slot) (he : (g.dissolved s gone).Edge q t) :
        g.Edge q t := by
      rcases ((edge_dissolved hg.simple s gone hgs q t).mp he).1 with he | ⟨hqs, _⟩
      · exact he
      · exact absurd (hpre.ascending q s hqs) (Nat.lt_asymm (hfirst q hq))
    have hpre' := hpre.torso (torso_dissolved hg.simple s gone hs) hg'.simple
    obtain ⟨new, hedges, hnew, hbelow⟩ := ih hg' hpre' hss fun q hq t u ht hu =>
      hone q (List.mem_cons_of_mem _ hq) t u (hold q hq t ht) (hold q hq u hu)
    have hsgone : h.contains s = false := by
      rw [← Bool.not_eq_true, d.contains_iff hg'.simple, contains_dissolved hg.simple]
      simp
    have hlive (e : Slot × Slot) :
        ((h.contains e.1 && h.contains e.2) && (e.1 ≠ s && e.2 ≠ s)) =
          (h.contains e.1 && h.contains e.2) := by
      by_cases h1 : e.1 = s
      · simp [h1, hsgone]
      · by_cases h2 : e.2 = s <;> simp [h1, h2, hsgone]
    let own := ((g.parents s).product (g.children s)).filter
      fun e => h.contains e.1 && h.contains e.2
    have hown (e : Slot × Slot) (he : e ∈ own) : g.Edge e.1 s ∧ g.Edge s e.2 := by
      obtain ⟨hp, hc⟩ := List.mem_product.mp (List.mem_filter.mp he).1
      exact ⟨(mem_parents g s e.1).mp hp, (mem_children g s e.2).mp hc⟩
    have hsingle (t u : Slot) (ht : g.Edge s t) (hu : g.Edge s u) : t = u :=
      hone s List.mem_cons_self t u ht hu
    refine ⟨own ++ new, ?_, ?_, ?_⟩
    · rw [hedges, hg.edges_dissolved hs, List.filter_append, List.filter_filter,
        List.append_assoc]
      simp only [hlive, own]
    · refine List.pairwise_append.mpr ⟨?_, hnew, ?_⟩
      · have hnd : own.Nodup :=
          ((hg.simple.nodup_parents s).product (hg.simple.nodup_children s)).filter _
        refine hnd.imp_of_mem fun {e f} he hf hne => absurd ?_ hne
        obtain ⟨hes, hse⟩ := hown e he
        obtain ⟨hfs, hsf⟩ := hown f hf
        exact Prod.ext (hg.unique _ _ s hes hfs) (hsingle _ _ hse hsf)
      · intro e he f hf
        obtain ⟨q, hq, hqf⟩ := hbelow f hf
        exact hpre.lt_of_only_child hg (hown e he).2 (fun u hu => hsingle u e.2 hu (hown e he).2)
          (hold q hq f.2 hqf) (hfirst q hq)
    · intro e he
      rcases List.mem_append.mp he with he | he
      · exact ⟨s, List.mem_cons_self, (hown e he).2⟩
      · obtain ⟨q, hq, hqe⟩ := hbelow e he
        exact ⟨q, List.mem_cons_of_mem _ hq, hold q hq e.2 hqe⟩

theorem children_eq (d : Dissolves g ss h) (hg : g.Forest) (hpre : g.InPreorder)
    (hss : ss.Pairwise (· < ·)) (hone : ∀ s ∈ ss, ∀ t u, g.Edge s t → g.Edge s u → t = u)
    {s : Slot} (hs : h.contains s = true) :
    h.children s =
        (g.children s).filter h.contains ++ (h.children s).filter (· ∉ g.children s) ∧
      ((h.children s).filter (· ∉ g.children s)).Pairwise (· < ·) := by
  obtain ⟨new, hedges, hnew, hbelow⟩ := d.edges_eq hg hpre hss hone
  let moved := (new.filter (·.1 = s)).map (·.2)
  have hchildren : h.children s = (g.children s).filter h.contains ++ moved := by
    rw [children, hedges, List.filter_append, List.map_append, children, List.filter_filter,
      List.filter_map, List.filter_filter]
    congr 2
    refine List.filter_congr fun e _ => ?_
    by_cases he : e.1 = s <;> simp [he, hs]
  have hnot (t : Slot) (ht : t ∈ moved) : t ∉ g.children s := by
    intro hst
    obtain ⟨e, he, rfl⟩ := List.mem_map.mp ht
    obtain ⟨q, hq, hqe⟩ := hbelow e (List.mem_filter.mp he).1
    have hqs := hg.unique q s e.2 hqe ((mem_children g s e.2).mp hst)
    exact ((d.contains_iff hg.simple s).mp hs).1 (hqs ▸ hq)
  have hmoved : (h.children s).filter (· ∉ g.children s) = moved := by
    rw [hchildren, List.filter_append, List.filter_eq_nil_iff.mpr, List.nil_append,
      List.filter_eq_self.mpr]
    · intro t ht
      exact decide_eq_true (hnot t ht)
    · intro t ht
      simp [(List.mem_filter.mp ht).1]
  rw [hmoved]
  exact ⟨hchildren, (hnew.sublist List.filter_sublist).map _ fun _ _ hef => hef⟩

end Dissolves

theorem Forest.only_child {g : Graph} (hg : g.Forest) {s : Slot} (hs : g.Light s) {t u : Slot}
    (ht : g.Edge s t) (hu : g.Edge s u) : t = u := by
  have hout : g.outDegree s ≤ 1 := by
    have hin := hg.inDegree_le_one s
    rcases hs with h0 | heq
    · omega
    · omega
  have ht := (mem_children g s t).mpr ht
  have hu := (mem_children g s u).mpr hu
  rw [outDegree] at hout
  cases hcs : g.children s with
  | nil => simp [hcs] at ht
  | cons c cs =>
    rw [hcs, List.length_cons] at hout
    have hnil : cs = [] := List.eq_nil_of_length_eq_zero (by omega)
    simp only [hcs, hnil, List.mem_singleton] at ht hu
    exact ht.trans hu.symm

def afterPass (config : PruneConfig) (g : Graph) : Graph :=
  match g.dissolveAll (g.removable config) with
  | .ok h => h
  | .error _ => g

theorem Dissolves.afterPass_eq {config : PruneConfig} {g h : Graph}
    (d : Dissolves g ((g.removable config).map (·.1)) h) (hg : g.Simple) :
    afterPass config g = h := by
  obtain ⟨h', hok, d'⟩ := dissolveAll_ok hg (g.removable config) (g.nodup_removable config)
    (g.contains_removable config)
  rw [afterPass, hok]
  exact d'.unique d

def hung (config : PruneConfig) (g : Graph) (s : Slot) : Nat → List Slot
  | 0 => g.children s
  | k + 1 => (((afterPass config)^[k + 1] g).children s).filter
      (· ∉ ((afterPass config)^[k] g).children s)

theorem hung_afterPass (config : PruneConfig) (g : Graph) (s : Slot) (k : Nat) :
    (afterPass config g).hung config s (k + 1) = g.hung config s (k + 2) :=
  rfl

theorem Passes.children_eq {config : PruneConfig} {g h : Graph} {r r' : PruneReport}
    (p : Passes config g r h r') (hg : g.Forest) (hpre : g.InPreorder) {s : Slot}
    (hs : h.contains s = true) : ∃ n, r'.passes = r.passes + n ∧
      h.children s =
        (List.range (n + 1)).flatMap (fun k => (g.hung config s k).filter h.contains) ∧
      ∀ k < n, ((g.hung config s (k + 1)).filter h.contains).Pairwise (· < ·) := by
  induction p with
  | @done g r hr =>
    refine ⟨0, rfl, ?_, by simp⟩
    have hlive := hg.simple.contains_children s
    simp [hung, List.filter_eq_self.mpr hlive]
  | @pass g g' h r r' hne d p ih =>
    -- What the first pass hangs below `s` are children like the others for the later passes.
    have hafter := d.afterPass_eq hg.simple
    have hg' := d.forest hg
    have ht := p.torso hg'.simple
    have hss : ((g.removable config).map (·.1)).Pairwise (· < ·) :=
      g.pairwise_nodes.sublist (List.filter_sublist.map _)
    obtain ⟨hchildren, hfirst⟩ := d.children_eq hg hpre hss
      (fun q hq t u => hg.only_child (light_removable g config q hq)) (ht.contains hs)
    obtain ⟨n, hpasses, hrest, hruns⟩ := ih hg' (hpre.torso (d.torso hg.simple) hg'.simple) hs
    refine ⟨n + 1, ?_, ?_, ?_⟩
    · have hmore : (r.after g config).passes = r.passes + 1 := rfl
      omega
    · have hkept : ((g.children s).filter g'.contains).filter h.contains =
          (g.children s).filter h.contains := by
        rw [List.filter_filter]
        refine List.filter_congr fun t _ => ?_
        cases hc : h.contains t with
        | false => rfl
        | true => rw [ht.contains hc, Bool.and_self]
      have hnow : (g'.children s).filter h.contains =
          (g.hung config s 0).filter h.contains ++ (g.hung config s 1).filter h.contains := by
        rw [hchildren, List.filter_append, hkept, ← hafter]
        rfl
      have hlater (k : Nat) : g'.hung config s (k + 1) = g.hung config s (k + 2) := by
        rw [← hafter, hung_afterPass]
      have hhead : g'.hung config s 0 = g'.children s := rfl
      simp only [List.range_succ_eq_map, List.flatMap_cons, List.flatMap_map, hlater, hhead]
        at hrest ⊢
      rw [hrest, hnow, List.append_assoc]
    · intro k hk
      cases k with
      | zero =>
        have hone : g.hung config s 1 = (g'.children s).filter (· ∉ g.children s) := by
          rw [← hafter]
          rfl
        rw [hone]
        exact hfirst.sublist List.filter_sublist
      | succ k =>
        rw [← hung_afterPass, hafter]
        exact hruns k (Nat.lt_of_succ_lt_succ hk)

end PageGraph.Graph
