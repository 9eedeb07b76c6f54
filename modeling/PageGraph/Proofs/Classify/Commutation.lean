import PageGraph.Proofs.Classify.Enrichment

namespace PageGraph

namespace LabelSet

theorem addFront_addBack {l m : Label} (hlm : l ≠ m) (s : LabelSet) :
    (s.addBack m).addFront l = (s.addFront l).addBack m := by
  unfold addFront addBack
  by_cases hl : l ∈ s.toList <;> by_cases hm : m ∈ s.toList <;>
    simp [hl, hm, hlm, Ne.symm hlm]

theorem perm_of_mem_iff {s t : LabelSet} (h : ∀ l, l ∈ s.toList ↔ l ∈ t.toList) :
    s.toList.Perm t.toList := by
  apply (List.perm_ext_iff_of_nodup s.nodup t.nodup).mpr
  exact h

theorem placed_link {marked : Label → Bool} {l : Label} (hl : l ≠ .grid) (s : LabelSet) :
    placed marked [.link, l] s = placed marked [l, .link] s := by
  cases l with
  | grid => contradiction
  | link => rfl
  | title | linkList =>
    simp only [placed, place]
    split <;> split
    · exact (addFront_addBack (by decide) s).symm
    all_goals rfl

end LabelSet

namespace Relabelled

variable {g h : Graph}

theorem symm (hgh : Relabelled g h) : Relabelled h g := by
  refine ⟨hgh.edges.symm, hgh.free.symm, hgh.size.symm, ?_⟩
  intro s
  exact (hgh.node s).symm

theorem eq_of_same (hgh : Relabelled g h) (hlabels : ∀ s, h.labelsAt s = g.labelsAt s)
    (hpayload : ∀ s, h.payloadAt s = g.payloadAt s) : h = g := by
  apply Graph.ext_node? hgh.size
  · intro s
    have hnode := hgh.node?_eq (f := id) (by simpa using hlabels s) (hpayload s)
    simpa using hnode
  · exact hgh.free
  · exact hgh.edges

theorem payloadDepths (hgh : Relabelled g h)
    (hpayload : ∀ s, (h.payloadAt s).isSome = (g.payloadAt s).isSome) (root : Slot) :
    h.payloadDepths root = g.payloadDepths root := by
  have hlayers (rounds depth : Nat) (seen layer : List Slot) :
      h.layers rounds depth seen layer = g.layers rounds depth seen layer := by
    have hnext (seen layer : List Slot) : h.nextLayer seen layer = g.nextLayer seen layer := by
      simp only [Graph.nextLayer, funext hgh.children]
    induction rounds generalizing depth seen layer with
    | zero => rfl
    | succ rounds ih => simp only [Graph.layers, hnext, ih]
  have hslots (k : Graph) : k.slotsWhere (·.payload.isSome) =
      (k.nodes.map (·.1)).filter fun s => (k.payloadAt s).isSome := by
    rw [Graph.slotsWhere, List.filter_map]
    congr 1
    apply List.filter_congr
    rintro ⟨s, n⟩ hn
    have hn := (k.mem_nodes s n).mp hn
    simp [Graph.payloadAt, hn]
  have hnodes : h.nodes.map (·.1) = g.nodes.map (·.1) := by
    have hbare := congrArg (List.map (·.1)) hgh.nodes
    simpa only [List.map_map, Function.comp_def] using hbare
  simp only [Graph.payloadDepths, Graph.depthsFrom, hslots, hnodes, hpayload, hlayers,
    hgh.nodeCount]

theorem votes (hgh : Relabelled g h)
    (hpayload : ∀ s, (h.payloadAt s).isSome = (g.payloadAt s).isSome) (root : Slot) :
    h.votes root = g.votes root := by
  simp only [Graph.votes, hgh.payloadDepths hpayload, hgh.ancestors]

theorem homogeneous (hgh : Relabelled g h)
    (hblank : ∀ s n, g.node? s = some n → n.labels = .empty) {s : Slot}
    (hs : h.homogeneous s = true) : g.homogeneous s = true := by
  have hbare : ((h.children s).filterMap h.node?).map Node.bare =
      ((g.children s).filterMap g.node?).map Node.bare := by
    simp only [List.map_filterMap, hgh.children, hgh.node]
  rw [Graph.homogeneous] at hs ⊢
  cases hg : (g.children s).filterMap g.node? with
  | nil =>
    rw [hg, List.map_nil, List.map_eq_nil_iff] at hbare
    simp [hbare] at hs
  | cons n ns =>
    cases hh : (h.children s).filterMap h.node? with
    | nil => simp [hh] at hs
    | cons m ms =>
      rw [hg, hh, List.map_cons, List.map_cons, List.cons.injEq] at hbare
      obtain ⟨hfirst, hrest⟩ := hbare
      have hbared : Node.idPrefix = Node.idPrefix ∘ Node.bare := rfl
      have hhead : m.idPrefix = n.idPrefix := by
        rw [hbared, Function.comp_apply, hfirst, Function.comp_apply]
      have hprefixes : ms.map Node.idPrefix = ns.map Node.idPrefix := by
        rw [hbared, ← List.map_map, hrest, List.map_map]
      have hunlabelled (k : Node) (hk : k ∈ n :: ns) : k.labels = .empty := by
        rw [← hg] at hk
        obtain ⟨c, _, hc⟩ := List.mem_filterMap.mp hk
        exact hblank c k hc
      simp only [hh, List.all_eq_true, Bool.and_eq_true, decide_eq_true_eq] at hs ⊢
      intro k hk
      refine ⟨?_, ?_⟩
      · have hin : k.idPrefix ∈ ms.map Node.idPrefix := by
          rw [hprefixes]
          exact List.mem_map_of_mem hk
        obtain ⟨k', hk', heq⟩ := List.mem_map.mp hin
        rw [← heq, (hs k' hk').1, hhead]
      · rw [hunlabelled k (List.mem_cons_of_mem n hk), hunlabelled n List.mem_cons_self]

end Relabelled

namespace Graph

variable {g : Graph}

theorem Titled.unique {h k : Graph} (hgh : Titled g h) (hgk : Titled g k) (s : Slot) :
    h.payloadAt s = k.payloadAt s := by
  induction s using Nat.strongRecOn with
  | ind s ih =>
    by_cases hs : g.Untitled s
    · rw [hgh.filled s hs, hgk.filled s hs, textBetween, textBetween]
      congr 2
      apply textOf_congr
      intro c _
      rw [payloadBetween, payloadBetween]
      split
      · next hc => exact ih c hc
      · rfl
    · rw [hgh.kept s hs, hgk.kept s hs]

theorem payloadAt_classified {l : Label} (hl : l ≠ .title) (s : Slot) :
    (g.classified l).payloadAt s = g.payloadAt s := by
  cases hclassify : g.classify l with
  | error e => rw [classified_of_error hclassify]
  | ok r =>
    obtain ⟨root, -, rfl⟩ := (g.classify_eq_ok l r).mp hclassify
    rw [classified_of_ok hclassify, g.payloadAt_pass_of_ne hl]

theorem titled_runEach {ls : List Label} (hls : .title ∈ ls) (g : Graph) :
    Titled g (g.runEach ls) := by
  induction ls generalizing g with
  | nil => contradiction
  | cons l ls ih =>
    rw [runEach_cons]
    by_cases hl : l = .title
    · subst hl
      have htitled : Titled g (g.classified .title) := g.titled_labelTitles
      apply htitled.trans_same
      intro s
      rcases ((g.classified .title).enriched_runEach ls).payload with hsame | hagain
      · exact hsame s
      · exact hagain.kept s (htitled.not_untitled (g.enriched_classified .title).relabelled s)
    · have hrest : .title ∈ ls := (List.mem_cons.mp hls).resolve_left (Ne.symm hl)
      exact (ih hrest _).same_trans (g.enriched_classified l).relabelled (payloadAt_classified hl)

theorem payloadAt_runEach_of_not_mem {ls : List Label} (hls : .title ∉ ls) (g : Graph) (s : Slot) :
    (g.runEach ls).payloadAt s = g.payloadAt s := by
  induction ls generalizing g with
  | nil => rfl
  | cons l ls ih =>
    obtain ⟨hl, hls⟩ := List.ne_and_not_mem_of_not_mem_cons hls
    rw [runEach_cons, ih hls, payloadAt_classified (Ne.symm hl)]

theorem payloadAt_runEach_congr {ls ls' : List Label} (hsame : ∀ l, l ∈ ls ↔ l ∈ ls') (g : Graph)
    (s : Slot) : (g.runEach ls).payloadAt s = (g.runEach ls').payloadAt s := by
  by_cases hls : .title ∈ ls
  · apply (titled_runEach hls g).unique
    exact titled_runEach ((hsame .title).mp hls) g
  · have hls' : .title ∉ ls' := mt (hsame .title).mpr hls
    rw [payloadAt_runEach_of_not_mem hls, payloadAt_runEach_of_not_mem hls']

theorem labelsAt_runEach {ls : List Label} (hls : .grid ∉ ls) (g : Graph) (s : Slot) :
    (g.runEach ls).labelsAt s =
      (g.labelsAt s).map (LabelSet.placed (fun l => (g.marked 0 l).contains s) ls) := by
  have hrun := classifyAll_eq_ok (classifyAll_eq_markAll (.refl g) 0 {} ls hls)
  rw [← hrun.1, labelsAt_markAll (g.nodup_marked 0)]

theorem perm_labelsAt_runEach {ls ls' : List Label} (hls : .grid ∉ ls)
    (hsame : ∀ l, l ∈ ls ↔ l ∈ ls') {s : Slot} {labels labels' : LabelSet}
    (h : (g.runEach ls).labelsAt s = some labels)
    (h' : (g.runEach ls').labelsAt s = some labels') : labels.toList.Perm labels'.toList := by
  rw [labelsAt_runEach hls] at h
  rw [labelsAt_runEach (mt (hsame .grid).mpr hls)] at h'
  obtain ⟨old, hold, rfl⟩ := Option.map_eq_some_iff.mp h
  obtain ⟨old', hold', rfl⟩ := Option.map_eq_some_iff.mp h'
  cases hold.symm.trans hold'
  apply LabelSet.perm_of_mem_iff
  intro l
  rw [LabelSet.mem_placed, LabelSet.mem_placed, hsame]

theorem relabelled_runEach (g : Graph) (ls ls' : List Label) :
    Relabelled (g.runEach ls) (g.runEach ls') :=
  (g.enriched_runEach ls).relabelled.symm.trans (g.enriched_runEach ls').relabelled

theorem classified_link {l : Label} (hl : l ≠ .grid) :
    (g.classified .link).classified l = (g.classified l).classified .link := by
  have hrel := g.relabelled_runEach [l, .link] [.link, l]
  apply hrel.eq_of_same
  · intro s
    rw [labelsAt_runEach (by simp [Ne.symm hl]), labelsAt_runEach (by simp [Ne.symm hl])]
    congr 1
    funext labels
    exact LabelSet.placed_link hl labels
  · apply payloadAt_runEach_congr
    intro m
    simp [or_comm]

theorem runEach_classified_link {ls : List Label} (hls : .grid ∉ ls) (g : Graph) :
    (g.classified .link).runEach ls = (g.runEach ls).classified .link := by
  induction ls generalizing g with
  | nil => rfl
  | cons l ls ih =>
    obtain ⟨hl, hls⟩ := List.ne_and_not_mem_of_not_mem_cons hls
    rw [runEach_cons, runEach_cons, classified_link (Ne.symm hl), ih hls]

section Again

variable {l : Label} {ss : List Slot}

theorem lacks_pass_of_mem (hss : ss.Nodup) {s : Slot} (hs : s ∈ ss) :
    (g.pass l ss).graph.lacks l s = false := by
  rw [lacks, labelsAt_pass g l hss]
  cases g.labelsAt s with
  | none => rfl
  | some labels => simp [hs, LabelSet.contains, LabelSet.mem_place]

theorem pass_again (hss : ss.Nodup) (hlive : ∀ s ∈ ss, g.contains s = true) {ts : List Slot}
    (hts : ts.Nodup) (hsub : ∀ s ∈ ts, s ∈ ss) :
    (g.pass l ss).graph.pass l ts = ⟨(g.pass l ss).graph, 0⟩ := by
  let h := (g.pass l ss).graph
  have hlacks (s : Slot) (hs : s ∈ ts) : h.lacks l s = false := lacks_pass_of_mem hss (hsub s hs)
  have hgained : (h.pass l ts).gained = 0 := by
    rw [h.gained_pass l hts, List.countP_eq_zero]
    intro s hs
    simp [hlacks s hs]
  have hgraph : (h.pass l ts).graph = h := by
    apply (h.relabelled_pass l ts).eq_of_same
    · intro s
      rw [labelsAt_pass h l hts]
      cases hlabels : h.labelsAt s with
      | none => rfl
      | some labels =>
        rw [Option.map_some, Option.some.injEq]
        split
        · next hs =>
          have hcarried := hlacks s (List.contains_iff_mem.mp hs)
          rw [lacks, hlabels] at hcarried
          apply LabelSet.place_of_mem
          simpa [LabelSet.contains] using hcarried
        · rfl
    · intro s
      by_cases hs : l = .title ∧ s ∈ ts
      · obtain ⟨rfl, hs⟩ := hs
        have hfilled : (h.payloadAt s).isSome = true :=
          Labelling.isSome_payloadAt_foldl_addTitle (.start g) ss s (hsub s hs)
            (hlive s (hsub s hs))
        obtain ⟨p, hp⟩ := Option.isSome_iff_exists.mp hfilled
        rw [h.payloadAt_pass_of_some .title ts hp, hp]
      · apply h.payloadAt_pass_of_not_mem
        intro hl hin
        exact hs ⟨hl, hin⟩
  calc h.pass l ts = ⟨(h.pass l ts).graph, (h.pass l ts).gained⟩ := rfl
    _ = ⟨h, 0⟩ := by rw [hgraph, hgained]

theorem classify_again (hl : l ≠ .grid) (g : Graph) :
    ∃ r, g.classify l = .ok r ∧ r.graph.classify l = .ok ⟨r.graph, 0⟩ := by
  have hpass (h : Graph) : h.classify l = .ok (h.pass l (h.marked 0 l)) := by
    apply (h.classify_eq_ok l _).mpr
    exact ⟨0, fun hgrid => absurd hgrid hl, rfl⟩
  refine ⟨_, hpass g, ?_⟩
  rw [hpass, (g.relabelled_pass l _).marked 0 hl, pass_again (g.nodup_marked 0 l)]
  · intro s hs
    exact contains_of_mem_marked hs
  · exact g.nodup_marked 0 l
  · exact fun s hs => hs

theorem classified_again (hl : l ≠ .grid) (g : Graph) :
    (g.classified l).classified l = g.classified l := by
  obtain ⟨r, hok, hagain⟩ := g.classify_again hl
  rw [classified_of_ok hok, classified_of_ok hagain]

end Again

theorem grids_again {root : Slot} (hblank : ∀ s n, g.node? s = some n → n.labels = .empty)
    (ss : List Slot) {s : Slot} (hs : s ∈ (g.pass .grid ss).graph.grids root) :
    s ∈ g.grids root := by
  have hrel := g.relabelled_pass .grid ss
  have hvotes := hrel.votes (fun t => by rw [g.payloadAt_pass_of_ne (by decide)]) root
  rw [grids, List.mem_filter, mem_map_fst_nodes, hrel.contains, hvotes, Bool.and_eq_true] at hs
  obtain ⟨hlive, hvote, hhom⟩ := hs
  rw [grids, List.mem_filter, mem_map_fst_nodes, Bool.and_eq_true]
  exact ⟨hlive, hvote, hrel.homogeneous hblank hhom⟩

theorem classify_grid_again (hblank : ∀ s n, g.node? s = some n → n.labels = .empty)
    {r : Labelling} (hok : g.classify .grid = .ok r) :
    r.graph.classify .grid = .ok ⟨r.graph, 0⟩ := by
  obtain ⟨root, hroot, rfl⟩ := (g.classify_eq_ok .grid r).mp hok
  let h := (g.pass .grid (g.marked root .grid)).graph
  have hdesignated : h.designatedRoot = .ok root :=
    (g.relabelled_pass .grid _).designatedRoot.trans (hroot rfl)
  have hagain : h.pass .grid (h.marked root .grid) = ⟨h, 0⟩ := by
    apply pass_again (g.nodup_marked root .grid)
    · intro s hs
      exact contains_of_mem_marked hs
    · exact h.nodup_marked root .grid
    · intro s hs
      exact grids_again hblank _ hs
  apply (h.classify_eq_ok .grid _).mpr
  exact ⟨root, fun _ => hdesignated, hagain.symm⟩

theorem runEach_link {ls : List Label} (hls : .grid ∉ ls) (hlink : .link ∈ ls) (g : Graph) :
    g.runEach ls = (g.runEach (ls.filter (· ≠ .link))).classified .link := by
  induction ls generalizing g with
  | nil => contradiction
  | cons l ls ih =>
    obtain ⟨-, hrest⟩ := List.ne_and_not_mem_of_not_mem_cons hls
    by_cases hl : l = .link
    · subst hl
      rw [List.filter_cons_of_neg (by simp), runEach_cons, runEach_classified_link hrest]
      by_cases hin : .link ∈ ls
      · rw [ih hrest hin, classified_again (by decide)]
      · rw [List.filter_eq_self.mpr]
        intro m hm
        simp only [ne_eq, decide_eq_true_eq]
        rintro rfl
        exact hin hm
    · have hin : .link ∈ ls := (List.mem_cons.mp hlink).resolve_left (Ne.symm hl)
      rw [List.filter_cons_of_pos (by simp [hl]), runEach_cons, runEach_cons, ih hrest hin]

theorem runEach_congr {ls ls' : List Label} (hls : .grid ∉ ls) (hsame : ∀ l, l ∈ ls ↔ l ∈ ls')
    (hothers : ls.filter (· ≠ .link) = ls'.filter (· ≠ .link)) (g : Graph) :
    g.runEach ls = g.runEach ls' := by
  by_cases hlink : .link ∈ ls
  · have hlink' := (hsame .link).mp hlink
    rw [runEach_link hls hlink, runEach_link (mt (hsame .grid).mpr hls) hlink', hothers]
  · have hself {ms : List Label} (hms : .link ∉ ms) : ms.filter (· ≠ .link) = ms := by
      apply List.filter_eq_self.mpr
      intro m hm
      simp only [ne_eq, decide_eq_true_eq]
      rintro rfl
      exact hms hm
    rw [hself hlink, hself (mt (hsame .link).mpr hlink)] at hothers
    rw [hothers]

theorem classifiers_commute (g : Graph) :
    (∀ ls ls', .grid ∉ ls → (∀ l, l ∈ ls ↔ l ∈ ls') →
      (∃ report, g.runChain ls = (g.runEach ls, .ok report)) ∧
      Relabelled (g.runEach ls) (g.runEach ls') ∧
      (∀ s, (g.runEach ls).payloadAt s = (g.runEach ls').payloadAt s) ∧
      (∀ s labels labels', (g.runEach ls).labelsAt s = some labels →
        (g.runEach ls').labelsAt s = some labels' → labels.toList.Perm labels'.toList) ∧
      (ls.filter (· ≠ .link) = ls'.filter (· ≠ .link) → g.runEach ls = g.runEach ls')) ∧
    (∀ l, l ≠ .grid → ∃ r, g.classify l = .ok r ∧ r.graph.classify l = .ok ⟨r.graph, 0⟩) ∧
    ((∀ s n, g.node? s = some n → n.labels = .empty) → ∀ r, g.classify .grid = .ok r →
      r.graph.classify .grid = .ok ⟨r.graph, 0⟩) := by
  refine ⟨?_, fun l hl => g.classify_again hl, fun hblank r hok => classify_grid_again hblank hok⟩
  intro ls ls' hls hsame
  refine ⟨?_, g.relabelled_runEach ls ls', g.payloadAt_runEach_congr hsame, ?_, ?_⟩
  · have hrun := classifyAll_eq_markAll (.refl g) 0 {} ls hls
    rw [runChain, hrun, (classifyAll_eq_ok hrun).1]
    exact ⟨_, rfl⟩
  · intro s labels labels' h h'
    exact perm_labelsAt_runEach hls hsame h h'
  · intro hothers
    exact runEach_congr hls hsame hothers g

def linkHeading : Graph where
  slots := #[
    some ⟨"body_1", "body", "body", 0, [], none, true, .empty, none⟩,
    some ⟨"h1_1", "h1", "h1", 1, [], none, false, .empty, some 0⟩,
    some ⟨"a_1", "a", "a", 2, [], some { text := "t" }, false, .empty, some 1⟩,
    some ⟨"a_2", "a", "a", 3, [], some { text := "u" }, false, .empty, some 1⟩]
  free := []
  edges := [(0, 1), (1, 2), (1, 3)]

theorem classifiers_commute_linkHeading :
    (∃ labels labels',
      (linkHeading.runEach [.title, .link, .linkList]).labelsAt 1 = some labels ∧
      (linkHeading.runEach [.linkList, .title, .link]).labelsAt 1 = some labels' ∧
      labels.toList = [.title, .linkList] ∧ labels'.toList = [.linkList, .title] ∧
      labels.toList.Perm labels'.toList) ∧
    (linkHeading.runEach [.link, .title, .title, .linkList] =
      linkHeading.runEach [.title, .title, .linkList, .link]) ∧
    ∃ r, linkHeading.classify .grid = .ok r ∧ r.gained = 1 ∧
      r.graph.classify .grid = .ok ⟨r.graph, 0⟩ := by
  obtain ⟨hruns, -, hgrid⟩ := classifiers_commute linkHeading
  have hsame : ∀ l, l ∈ [Label.title, .link, .linkList] ↔ l ∈ [Label.linkList, .title, .link] := by
    intro l
    cases l <;> decide
  have hsame' : ∀ l, l ∈ [Label.link, .title, .title, .linkList] ↔
      l ∈ [Label.title, .title, .linkList, .link] := by
    intro l
    cases l <;> decide
  refine ⟨⟨⟨[.title, .linkList], by decide⟩, ⟨[.linkList, .title], by decide⟩, by decide, by decide,
    rfl, rfl, ?_⟩, ?_, ?_⟩
  · exact (hruns _ _ (by decide) hsame).2.2.2.1 1 _ _ (by decide) (by decide)
  · exact (hruns _ _ (by decide) hsame').2.2.2.2 (by decide)
  · have hok : linkHeading.classify .grid = .ok (linkHeading.pass .grid (linkHeading.grids 0)) :=
      labelGrids_eq (by decide)
    refine ⟨_, hok, by decide, ?_⟩
    apply hgrid _ _ hok
    intro s n hn
    have hall : ∀ s < 4, ∀ n ∈ linkHeading.node? s, n.labels = .empty := by decide
    exact hall s (lt_size_of_node? linkHeading s n hn) n hn

end Graph

end PageGraph
