import PageGraph.Proofs.Classify.Repetition
import PageGraph.Proofs.Classify.Titles

namespace PageGraph

namespace LabelSet

theorem infix_place (l : Label) (s : LabelSet) : s.toList <:+: (place l s l).toList := by
  have hfront : s.toList <:+: (s.addFront l).toList := by
    unfold addFront
    split
    · exact List.infix_rfl
    · exact (List.suffix_cons l s.toList).isInfix
  have hback : s.toList <:+: (s.addBack l).toList := by
    unfold addBack
    split
    · exact List.infix_rfl
    · exact (List.prefix_append s.toList [l]).isInfix
  cases l
  case grid | link => exact hfront
  case linkList | title => exact hback

end LabelSet

namespace ClassifyReport

theorem lookup_filter_ne (es : List (Label × Nat)) (l m : Label) :
    (es.filter (·.1 ≠ l)).lookup m = if m = l then none else es.lookup m := by
  induction es with
  | nil => simp
  | cons e es ih =>
    by_cases he : e.1 = l
    · rw [List.filter_cons_of_neg (by simp [he]), ih, List.lookup_cons]
      by_cases hm : m = l
      · simp [hm]
      · have hne : (m == e.1) = false := beq_eq_false_iff_ne.mpr (he ▸ hm)
        simp [hm, hne]
    · rw [List.filter_cons_of_pos (by simp [he]), List.lookup_cons, ih, List.lookup_cons]
      by_cases hm : m = e.1
      · simp [hm, he]
      · simp [beq_eq_false_iff_ne.mpr hm]

theorem lookup_put (r : ClassifyReport) (l m : Label) (n : Nat) :
    (r.put l n).labelled.lookup m = if m = l then some n else r.labelled.lookup m := by
  rw [put, List.lookup_append, lookup_filter_ne]
  by_cases hm : m = l
  · simp [hm]
  · simp [hm, List.lookup_cons, beq_eq_false_iff_ne.mpr hm]

end ClassifyReport

namespace Graph

variable {g h k : Graph}

structure Enriched (g h : Graph) : Prop where
  relabelled : Relabelled g h
  labels : ∀ s old new, g.labelsAt s = some old → h.labelsAt s = some new →
    old.toList <:+: new.toList ∧ new.toList.Nodup
  payload : (∀ s, h.payloadAt s = g.payloadAt s) ∨ Titled g h

namespace Enriched

theorem refl (g : Graph) : Enriched g g := by
  refine ⟨.refl g, ?_, .inl fun _ => rfl⟩
  intro s old new hold hnew
  obtain rfl := Option.some.inj (hold.symm.trans hnew)
  exact ⟨List.infix_rfl, old.nodup⟩

theorem trans (hgh : Enriched g h) (hhk : Enriched h k) : Enriched g k := by
  refine ⟨hgh.relabelled.trans hhk.relabelled, ?_, ?_⟩
  · intro s old new hold hnew
    have hlive := (g.contains_iff_labelsAt s).mpr ⟨old, hold⟩
    rw [← hgh.relabelled.contains] at hlive
    obtain ⟨between, hbetween⟩ := (h.contains_iff_labelsAt s).mp hlive
    have hfirst := (hgh.labels s old between hold hbetween).1
    have hthen := (hhk.labels s between new hbetween hnew).1
    exact ⟨hfirst.trans hthen, new.nodup⟩
  · rcases hgh.payload with hsame | htitled
    · rcases hhk.payload with hsame' | htitled'
      · exact .inl fun s => (hsame' s).trans (hsame s)
      · exact .inr (htitled'.same_trans hgh.relabelled hsame)
    · have hsame (s : Slot) : k.payloadAt s = h.payloadAt s := by
        rcases hhk.payload with hsame | htitled'
        · exact hsame s
        · exact htitled'.kept s (htitled.not_untitled hgh.relabelled s)
      exact .inr (htitled.trans_same hsame)

end Enriched

theorem enriched_classify {l : Label} {r : Labelling} (hok : g.classify l = .ok r) :
    Enriched g r.graph := by
  refine ⟨g.relabelled_classify l r hok, ?_, ?_⟩
  · obtain ⟨root, -, rfl⟩ := (g.classify_eq_ok l r).mp hok
    intro s old new hold hnew
    rw [labelsAt_pass g l (g.nodup_marked root l), hold, Option.map_some, Option.some.injEq] at hnew
    subst hnew
    split
    · exact ⟨LabelSet.infix_place l old, LabelSet.nodup _⟩
    · exact ⟨List.infix_rfl, old.nodup⟩
  · by_cases hl : l = .title
    · subst hl
      cases hok
      exact .inr g.titled_labelTitles
    · obtain ⟨root, -, rfl⟩ := (g.classify_eq_ok l r).mp hok
      exact .inl (g.payloadAt_pass_of_ne hl _)

def gains (g h : Graph) (l : Label) : List Slot :=
  (h.labelled l).filter (· ∉ g.labelled l)

theorem gained_classify {l : Label} {r : Labelling} (hok : g.classify l = .ok r) :
    r.gained = (g.gains r.graph l).length := by
  obtain ⟨root, -, rfl⟩ := (g.classify_eq_ok l r).mp hok
  have hmarked := g.nodup_marked root l
  have hlabelled := (g.pass l (g.marked root l)).graph.nodup_slotsWhere (·.labels.contains l)
  rw [gained_pass g l hmarked, List.countP_eq_length_filter]
  apply List.Perm.length_eq
  apply (List.perm_ext_iff_of_nodup (hmarked.filter _) (hlabelled.filter _)).mpr
  intro s
  rw [List.mem_filter, List.mem_filter, decide_eq_true_eq, lacks_iff, ← labelled,
    mem_labelled_pass_marked]
  constructor
  · rintro ⟨hs, -, hnew⟩
    exact ⟨.inr ⟨rfl, hs⟩, hnew⟩
  · rintro ⟨hs | ⟨-, hs⟩, hnew⟩
    · contradiction
    · exact ⟨hs, contains_of_mem_marked hs, hnew⟩

def classified (g : Graph) (l : Label) : Graph :=
  match g.classify l with
  | .ok r => r.graph
  | .error _ => g

def runEach (g : Graph) (ls : List Label) : Graph :=
  ls.foldl classified g

theorem classified_of_ok {l : Label} {r : Labelling} (hok : g.classify l = .ok r) :
    g.classified l = r.graph := by
  rw [classified, hok]

theorem classified_of_error {l : Label} {e : GraphError} (herr : g.classify l = .error e) :
    g.classified l = g := by
  rw [classified, herr]

theorem runEach_cons (g : Graph) (l : Label) (ls : List Label) :
    g.runEach (l :: ls) = (g.classified l).runEach ls :=
  rfl

theorem runEach_concat (g : Graph) (ls : List Label) (l : Label) :
    g.runEach (ls ++ [l]) = (g.runEach ls).classified l := by
  induction ls generalizing g with
  | nil => rfl
  | cons m ls ih => rw [List.cons_append, runEach_cons, ih, runEach_cons]

theorem enriched_classified (g : Graph) (l : Label) : Enriched g (g.classified l) := by
  cases hclassify : g.classify l with
  | error e =>
    rw [classified_of_error hclassify]
    exact .refl g
  | ok r =>
    rw [classified_of_ok hclassify]
    exact enriched_classify hclassify

theorem enriched_runEach (g : Graph) (ls : List Label) : Enriched g (g.runEach ls) := by
  induction ls generalizing g with
  | nil => exact .refl g
  | cons l ls ih => exact (g.enriched_classified l).trans (ih _)

/-- A chain that fails has run its classifiers up to the first one for grids. -/
theorem classifyAll_eq_error {report : ClassifyReport} {ls : List Label} {e : GraphError} :
    g.classifyAll report ls = (h, .error e) ↔
      .grid ∈ ls ∧ g.designatedRoot = .error e ∧ h = g.runEach (ls.takeWhile (· ≠ .grid)) := by
  induction ls generalizing g report with
  | nil => simp [classifyAll]
  | cons l ls ih =>
    rw [classifyAll]
    cases hclassify : g.classify l with
    | error e' =>
      obtain ⟨rfl, hroot⟩ := (g.classify_eq_error l e').mp hclassify
      simp [hroot, runEach, eq_comm, and_comm]
    | ok r =>
      have hrel := g.relabelled_classify l r hclassify
      rw [ih, hrel.designatedRoot, ← classified_of_ok hclassify]
      by_cases hl : l = .grid
      · subst hl
        obtain ⟨root, hroot, -⟩ := (g.classify_eq_ok .grid r).mp hclassify
        simp [hroot rfl]
      · simp [hl, Ne.symm hl, runEach_cons]

theorem classifyAll_eq_ok {report report' : ClassifyReport} {ls : List Label}
    (hrun : g.classifyAll report ls = (h, .ok report')) :
    h = g.runEach ls ∧ ∀ l, (l ∉ ls → report'.labelled.lookup l = report.labelled.lookup l) ∧
      ∀ before after, ls = before ++ l :: after → l ∉ after →
        report'.labelled.lookup l =
          some ((g.runEach before).gains (g.runEach (before ++ [l])) l).length := by
  induction ls generalizing g report with
  | nil =>
    cases hrun
    refine ⟨rfl, fun l => ⟨fun _ => rfl, ?_⟩⟩
    intro before after hsplit
    simp at hsplit
  | cons m ls ih =>
    rw [classifyAll] at hrun
    cases hclassify : g.classify m with
    | error e => simp [hclassify] at hrun
    | ok r =>
      simp only [hclassify] at hrun
      obtain ⟨hgraph, hreport⟩ := ih hrun
      rw [← classified_of_ok hclassify] at hgraph hreport
      refine ⟨hgraph, fun l => ⟨?_, ?_⟩⟩
      · intro hl
        obtain ⟨hne, hls⟩ := List.ne_and_not_mem_of_not_mem_cons hl
        rw [(hreport l).1 hls, ClassifyReport.lookup_put, if_neg hne]
      · intro before after hsplit hafter
        cases before with
        | nil =>
          obtain ⟨rfl, rfl⟩ := List.cons.inj hsplit
          rw [(hreport m).1 hafter, ClassifyReport.lookup_put, if_pos rfl,
            gained_classify hclassify, ← classified_of_ok hclassify]
          rfl
        | cons m' before =>
          obtain ⟨rfl, hrest⟩ := List.cons.inj hsplit
          exact (hreport l).2 before after hrest hafter

theorem enriched_runChain (g : Graph) (ls : List Label) : Enriched g (g.runChain ls).1 := by
  refine classifyAll_keeps ?_ (.refl g) {} ls
  intro h l r hgh hok
  exact hgh.trans (enriched_classify hok)

theorem designatedRoot_eq_error (g : Graph) (e : GraphError) :
    g.designatedRoot = .error e ↔
      e = .emptyGraph ∧ g.nodeCount = 0 ∨ e = .noRoot ∧ g.nodeCount ≠ 0 ∧ g.roots = [] := by
  rw [designatedRoot]
  by_cases hcount : g.nodeCount = 0
  · rw [if_pos hcount, Except.error.injEq]
    constructor
    · rintro rfl
      exact .inl ⟨rfl, hcount⟩
    · rintro (⟨rfl, -⟩ | ⟨-, hne, -⟩)
      · rfl
      · contradiction
  · rw [if_neg hcount]
    cases hroots : g.roots with
    | nil =>
      rw [List.head?_nil, Except.error.injEq]
      constructor
      · rintro rfl
        exact .inr ⟨rfl, hcount, rfl⟩
      · rintro (⟨-, hzero⟩ | ⟨rfl, -⟩)
        · contradiction
        · rfl
    | cons s ss => simp [hcount]

theorem classifiers_enrich (g : Graph) :
    (∀ ls, Enriched g (g.runEach ls)) ∧
    (∀ ls, Enriched g (g.runChain ls).1) ∧
    (∀ ls l r, (g.runEach ls).classify l = .ok r →
      g.runEach (ls ++ [l]) = r.graph ∧ r.gained = ((g.runEach ls).gains r.graph l).length) ∧
    (∀ ls l e, (g.runEach ls).classify l = .error e → g.runEach (ls ++ [l]) = g.runEach ls) ∧
    (∀ ls l e, (g.runEach ls).classify l = .error e ↔ l = .grid ∧
      (e = .emptyGraph ∧ g.nodeCount = 0 ∨ e = .noRoot ∧ g.nodeCount ≠ 0 ∧ g.roots = [])) ∧
    (∀ ls h report, g.runChain ls = (h, .ok report) →
      h = g.runEach ls ∧ ∀ before l after, ls = before ++ l :: after → l ∉ after →
        report.labelled.lookup l =
          some ((g.runEach before).gains (g.runEach (before ++ [l])) l).length) ∧
    (∀ ls h e, g.runChain ls = (h, .error e) ↔
      .grid ∈ ls ∧ g.classify .grid = .error e ∧ h = g.runEach (ls.takeWhile (· ≠ .grid))) ∧
    ∀ h e, g.runChain classifierOrder = (h, .error e) → h = g := by
  have hchain (ls : List Label) (h : Graph) (e : GraphError) : g.runChain ls = (h, .error e) ↔
      .grid ∈ ls ∧ g.classify .grid = .error e ∧ h = g.runEach (ls.takeWhile (· ≠ .grid)) := by
    rw [runChain, classifyAll_eq_error, classify_eq_error]
    simp
  refine ⟨g.enriched_runEach, g.enriched_runChain, ?_, ?_, ?_, ?_, hchain, ?_⟩
  · intro ls l r hok
    exact ⟨by rw [runEach_concat, classified_of_ok hok], gained_classify hok⟩
  · intro ls l e herr
    rw [runEach_concat, classified_of_error herr]
  · intro ls l e
    rw [classify_eq_error, (g.enriched_runEach ls).relabelled.designatedRoot,
      designatedRoot_eq_error]
  · intro ls h report hrun
    obtain ⟨hgraph, hreport⟩ := classifyAll_eq_ok hrun
    exact ⟨hgraph, fun before l after => (hreport l).2 before after⟩
  · intro h e hrun
    exact ((hchain classifierOrder h e).mp hrun).2.2

def upsideDown : Graph where
  slots := #[
    some ⟨"p_1", "p", "p", 0, [], some { text := "t" }, false, .empty, some 1⟩,
    some ⟨"h2_1", "h2", "h2", 1, [], none, false, .empty, some 2⟩,
    some ⟨"h1_1", "h1", "h1", 2, [], none, false, .empty, none⟩]
  free := []
  edges := [(1, 0), (2, 1)]

theorem classifiers_enrich_upsideDown :
    ∃ h, upsideDown.runChain [.title, .grid, .link] = (h, .error .noRoot) ∧
      Enriched upsideDown h ∧ h.payloadAt 2 = some { text := "t" } ∧
      upsideDown.runChain classifierOrder = (upsideDown, .error .noRoot) := by
  obtain ⟨heach, -, -, -, hfails, -, hchain, -⟩ := classifiers_enrich upsideDown
  have herr : upsideDown.classify .grid = .error .noRoot :=
    (hfails [] .grid .noRoot).mpr ⟨rfl, .inr ⟨rfl, by decide, by decide⟩⟩
  refine ⟨upsideDown.runEach [.title], ?_, heach [.title], by decide +kernel, ?_⟩
  · exact (hchain _ _ _).mpr ⟨by decide, herr, rfl⟩
  · exact (hchain _ _ _).mpr ⟨by decide, herr, rfl⟩

end Graph

end PageGraph
