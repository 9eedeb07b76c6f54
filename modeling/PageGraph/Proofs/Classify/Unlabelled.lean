import PageGraph.Proofs.Classify.Chain

namespace PageGraph.Graph

variable {g : Graph} {root : Slot}

theorem exists_designatedRoot (h : g.roots ≠ []) : ∃ root, g.designatedRoot = .ok root := by
  obtain ⟨root, hhead⟩ := Option.isSome_iff_exists.mp (List.isSome_head?.mpr h)
  obtain ⟨n, hn, _⟩ := (g.mem_slotsWhere _ root).mp (List.mem_of_mem_head? hhead)
  have hlive : 0 < g.nodeCount := by
    rw [← length_nodes]
    exact List.length_pos_of_mem ((g.mem_nodes root n).mpr hn)
  exact ⟨root, by simp [designatedRoot, hhead, hlive.ne']⟩

theorem Simple.mem_marked_linkList (hg : g.Simple) (s : Slot) :
    s ∈ g.marked root .linkList ↔ g.children s ≠ [] ∧
      ∀ c ∈ g.children s, ∃ n, g.node? c = some n ∧ n.isAnchor = true := by
  have hlist : g.isLinkList s = true ↔ g.children s ≠ [] ∧
      ∀ c ∈ g.children s, ∃ n, g.node? c = some n ∧ n.isAnchor = true := by
    simp [isLinkList, Option.any_eq_true]
  rw [marked, List.mem_filter, mem_map_fst_nodes, hlist]
  refine and_iff_right_of_imp ?_
  rintro ⟨hne, _⟩
  obtain ⟨c, hc⟩ := List.exists_mem_of_ne_nil _ hne
  exact (hg.live _ ((g.mem_children s c).mp hc)).1

section Unlabelled

variable (hblank : ∀ s n, g.node? s = some n → n.labels = .empty)

include hblank

theorem labelsAt_of_unlabelled {s : Slot} (hs : g.contains s = true) :
    g.labelsAt s = some .empty := by
  obtain ⟨n, hn⟩ := (g.contains_iff s).mp hs
  rw [labelsAt, hn, Option.map_some, hblank s n hn]

theorem Simple.mem_grids_of_unlabelled (hg : g.Simple) (s : Slot) :
    s ∈ g.grids root ↔ g.contains s = true ∧ (∃ a b, g.Vote root a b s) ∧
      g.children s ≠ [] ∧ g.Uniform s Node.idPrefix := by
  have hfirst : g.Uniform s (·.labels.first?) := by
    refine ⟨none, ?_⟩
    intro c hc
    obtain ⟨n, hn⟩ := hg.exists_child hc
    rw [hn, Option.map_some, hblank c n hn]
    rfl
  rw [hg.mem_grids]
  simp only [hfirst, and_true]

theorem mem_labelled_markAll (l : Label) (s : Slot) :
    s ∈ (markAll (g.marked root) classifierOrder g).1.labelled l ↔ s ∈ g.marked root l := by
  have horder : l ∈ classifierOrder := by cases l <;> decide
  rw [mem_labelled, labelsAt_markAll (g.nodup_marked root)]
  constructor
  · rintro ⟨labels, hlabels, hl⟩
    obtain ⟨before, hbefore, rfl⟩ := Option.map_eq_some_iff.mp hlabels
    have hlive := (g.contains_iff_labelsAt s).mpr ⟨before, hbefore⟩
    rw [labelsAt_of_unlabelled hblank hlive, Option.some.injEq] at hbefore
    subst hbefore
    rcases (LabelSet.mem_placed _ _ _ _).mp hl with hl | ⟨_, hs⟩
    · simp [LabelSet.empty] at hl
    · exact List.contains_iff_mem.mp hs
  · intro hs
    rw [labelsAt_of_unlabelled hblank (contains_of_mem_marked hs)]
    exact ⟨_, rfl, (LabelSet.mem_placed _ _ _ _).mpr (.inr ⟨horder, List.contains_iff_mem.mpr hs⟩)⟩

theorem countP_lacks_marked (l : Label) :
    (g.marked root l).countP (g.lacks l) =
      ((markAll (g.marked root) classifierOrder g).1.labelled l).length := by
  have hall : ∀ s ∈ g.marked root l, g.lacks l s = true := by
    intro s hs
    rw [lacks, labelsAt_of_unlabelled hblank (contains_of_mem_marked hs)]
    rfl
  have hperm := (List.perm_ext_iff_of_nodup (nodup_slotsWhere _ _) (g.nodup_marked root l)).mpr
    (mem_labelled_markAll hblank l)
  rw [List.countP_eq_length.mpr hall]
  exact hperm.length_eq.symm

end Unlabelled

theorem runChain_labels (g : Graph) (hg : g.Simple)
    (hblank : ∀ s n, g.node? s = some n → n.labels = .empty) (hroots : g.roots ≠ []) :
    ∃ root h report, g.designatedRoot = .ok root ∧
      g.runChain classifierOrder = (h, .ok report) ∧
      (∀ s, s ∈ h.labelled .link ↔
        ∃ n, g.node? s = some n ∧ Text.sameIgnoringCase n.tag "a" = true) ∧
      (∀ s, s ∈ h.labelled .title ↔
        ∃ n, g.node? s = some n ∧
          ∃ tag ∈ ["h1", "h2", "h3", "h4", "h5", "h6"], Text.sameIgnoringCase n.tag tag = true) ∧
      (∀ s, s ∈ h.labelled .linkList ↔
        g.children s ≠ [] ∧ ∀ c ∈ g.children s,
          ∃ n, g.node? c = some n ∧ Text.sameIgnoringCase n.tag "a" = true) ∧
      (∀ s, s ∈ h.labelled .grid ↔
        g.contains s = true ∧ (∃ a b, g.Vote root a b s) ∧
          g.children s ≠ [] ∧ g.Uniform s Node.idPrefix) ∧
      (∀ s n, h.node? s = some n →
        n.labels.toList = [Label.link, .grid, .linkList, .title].filter n.labels.contains) ∧
      report.labelled =
        [Label.grid, .linkList, .title, .link].map fun l => (l, (h.labelled l).length) := by
  obtain ⟨root, hroot⟩ := exists_designatedRoot hroots
  refine ⟨root, _, _, hroot, runChain_eq_markAll hroot, ?_, ?_, ?_, ?_, ?_, ?_⟩
  · intro s
    exact (mem_labelled_markAll hblank .link s).trans (g.mem_slotsWhere _ s)
  · intro s
    rw [mem_labelled_markAll hblank, marked, mem_slotsWhere]
    simp only [Node.isHeading, headingTags, List.any_eq_true]
  · intro s
    exact (mem_labelled_markAll hblank .linkList s).trans (hg.mem_marked_linkList s)
  · intro s
    exact (mem_labelled_markAll hblank .grid s).trans (hg.mem_grids_of_unlabelled hblank s)
  · intro s n hn
    have hlabels : (markAll (g.marked root) classifierOrder g).1.labelsAt s = some n.labels := by
      rw [labelsAt, hn, Option.map_some]
    rw [labelsAt_markAll (g.nodup_marked root)] at hlabels
    obtain ⟨before, hbefore, hplaced⟩ := Option.map_eq_some_iff.mp hlabels
    have hlive := (g.contains_iff_labelsAt s).mpr ⟨before, hbefore⟩
    rw [labelsAt_of_unlabelled hblank hlive, Option.some.injEq] at hbefore
    rw [← hplaced, ← hbefore, LabelSet.toList_placed_empty]
    refine List.filter_congr ?_
    intro l hl
    have horder : l ∈ classifierOrder := by cases l <;> decide
    rw [Bool.eq_iff_iff, LabelSet.contains_iff, LabelSet.mem_placed]
    simp [horder, LabelSet.empty]
  · rw [gained_markAll (g.nodup_marked root) _ (by decide)]
    refine List.map_congr_left ?_
    intro l _
    rw [countP_lacks_marked hblank]

def navBar : Graph where
  slots := #[
    some ⟨"body_1", "body", "body", 0, [], none, true, .empty, none⟩,
    some ⟨"nav_1", "nav", "nav", 1, [], none, false, .empty, some 0⟩,
    some ⟨"a_1", "a", "a", 2, [], some { text := "t" }, false, .empty, some 1⟩,
    some ⟨"a_2", "A", "A", 3, [], some { text := "u" }, false, .empty, some 1⟩,
    some ⟨"h2_1", "H2", "H2", 4, [], none, false, .empty, some 0⟩]
  free := []
  edges := [(0, 1), (1, 2), (1, 3), (0, 4)]

theorem runChain_labels_navBar :
    navBar.Simple ∧ navBar.roots = [0] ∧
      ∃ h report, navBar.runChain classifierOrder = (h, .ok report) ∧
        2 ∈ h.labelled .link ∧ 3 ∈ h.labelled .link ∧ 4 ∈ h.labelled .title ∧
        1 ∈ h.labelled .linkList ∧ 1 ∈ h.labelled .grid := by
  have hg : navBar.Simple := ⟨by decide, by decide⟩
  have hblank : ∀ s n, navBar.node? s = some n → n.labels = .empty := by
    intro s n hn
    have hall : ∀ s < 5, ∀ n ∈ navBar.node? s, n.labels = .empty := by decide
    exact hall s (lt_size_of_node? navBar s n hn) n hn
  obtain ⟨root, h, report, hroot, hrun, hlink, htitle, hlist, hgrid, _⟩ :=
    runChain_labels navBar hg hblank (by decide)
  have hzero : root = 0 := by
    have hdesignated : navBar.designatedRoot = .ok 0 := by decide
    exact Except.ok.inj (hroot.symm.trans hdesignated)
  subst hzero
  refine ⟨hg, by decide, h, report, hrun, ?_, ?_, ?_, ?_, ?_⟩
  · exact (hlink 2).mpr ⟨_, rfl, by decide⟩
  · exact (hlink 3).mpr ⟨_, rfl, by decide⟩
  · exact (htitle 4).mpr ⟨_, rfl, "h2", by decide, by decide⟩
  · refine (hlist 1).mpr ⟨by decide, ?_⟩
    intro c hc
    have hall : ∀ c ∈ navBar.children 1, ((navBar.node? c).any fun n =>
        Text.sameIgnoringCase n.tag "a") = true := by decide
    exact (Option.any_eq_true _ _).mp (hall c hc)
  · refine (hgrid 1).mpr ⟨by decide, ⟨2, 3, ?_⟩, by decide, ⟨['a'], by decide⟩⟩
    refine ⟨by decide, by decide, by decide, ⟨2, ?_, ?_⟩, by decide⟩
    · exact (hg.lookup_depthsFrom 2 2).mp (by decide)
    · exact (hg.lookup_depthsFrom 3 2).mp (by decide)

end PageGraph.Graph
