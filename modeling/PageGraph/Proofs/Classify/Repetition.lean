import PageGraph.Proofs.Classify.Unlabelled

/-!
Running the usual chain once more. Three of its passes find nothing new. The pass for grids may: the
first run gives payloads to headings that had none, and these now vote as well.
-/

namespace PageGraph

namespace LabelSet

theorem placed_of_mem {marked : Label → Bool} {s : LabelSet} (ls : List Label)
    (h : ∀ l ∈ ls, marked l = true → l ∈ s.toList) : placed marked ls s = s := by
  induction ls with
  | nil => rfl
  | cons l ls ih =>
    have htail := ih fun m hm => h m (List.mem_cons_of_mem l hm)
    by_cases hl : marked l = true
    · rw [placed, if_pos hl, place_of_mem (h l List.mem_cons_self hl), htail]
    · rw [placed, if_neg hl, htail]

end LabelSet

theorem Node.eq_of_bare {m n : Node} {labels : LabelSet} (hbare : m.bare = n.bare)
    (hpayload : m.payload = n.payload) (hlabels : m.labels = labels) :
    m = { n with labels := labels } := by
  obtain ⟨hid, htag, hname, hindex, hclasses, hroot, hparent⟩ := (Node.bare_eq_iff m n).mp hbare
  cases m
  simp_all only

namespace Relabelled

variable {g h : Graph}

theorem node?_eq (hgh : Relabelled g h) {s : Slot} {f : LabelSet → LabelSet}
    (hlabels : h.labelsAt s = (g.labelsAt s).map f) (hpayload : h.payloadAt s = g.payloadAt s) :
    h.node? s = (g.node? s).map fun n => { n with labels := f n.labels } := by
  have hbare := hgh.node s
  simp only [Graph.labelsAt, Graph.payloadAt] at hlabels hpayload
  cases hh : h.node? s with
  | none =>
    cases hg : g.node? s with
    | none => rfl
    | some n => simp [hh, hg] at hbare
  | some m =>
    cases hg : g.node? s with
    | none => simp [hh, hg] at hbare
    | some n =>
      rw [hh, hg, Option.map_some, Option.map_some, Option.some.injEq] at hbare
      rw [hh, hg, Option.map_some, Option.map_some, Option.map_some, Option.some.injEq] at hlabels
      rw [hh, hg, Option.bind_some, Option.bind_some] at hpayload
      rw [Option.map_some, Node.eq_of_bare hbare hpayload hlabels]

theorem way_iff (hgh : Relabelled g h) (s t : Slot) (d : Nat) : h.Way s d t ↔ g.Way s d t := by
  have hstep {a b : Graph} (hedges : a.edges = b.edges) (w : a.Way s d t) : b.Way s d t := by
    induction w with
    | here => exact .here
    | step w he ih =>
      refine ih.step ?_
      rwa [Graph.Edge, ← hedges]
  exact ⟨hstep hgh.edges, hstep hgh.edges.symm⟩

theorem distance_iff (hgh : Relabelled g h) (s t : Slot) (d : Nat) :
    h.Distance s t d ↔ g.Distance s t d := by
  constructor
  · rintro ⟨w, hleast⟩
    exact ⟨(hgh.way_iff s t d).mp w, fun e he => hleast e ((hgh.way_iff s t e).mpr he)⟩
  · rintro ⟨w, hleast⟩
    exact ⟨(hgh.way_iff s t d).mpr w, fun e he => hleast e ((hgh.way_iff s t e).mp he)⟩

theorem parent? (hgh : Relabelled g h) (s : Slot) : h.parent? s = g.parent? s := by
  have hparent (k : Graph) : k.parent? s = ((k.node? s).map Node.bare).bind (·.parent) := by
    rw [Graph.parent?, Option.bind_map]
    rfl
  rw [hparent, hgh.node, ← hparent]

theorem ancestors (hgh : Relabelled g h) (s : Slot) : h.ancestors s = g.ancestors s := by
  have hchain (length : Nat) (t : Slot) : h.chain length t = g.chain length t := by
    induction length generalizing t with
    | zero => rfl
    | succ length ih => simp only [Graph.chain, hgh.parent?, ih]
  rw [Graph.ancestors, hgh.nodeCount, hchain, Graph.ancestors]

theorem lca? (hgh : Relabelled g h) (a b : Slot) : h.lca? a b = g.lca? a b := by
  rw [Graph.lca?_eq_meeting?, Graph.lca?_eq_meeting?, hgh.ancestors, hgh.ancestors]

theorem uniform_idPrefix (hgh : Relabelled g h) (s : Slot) :
    h.Uniform s Node.idPrefix ↔ g.Uniform s Node.idPrefix := by
  have hprefix (k : Graph) (c : Slot) :
      (k.node? c).map Node.idPrefix = ((k.node? c).map Node.bare).map Node.idPrefix := by
    rw [Option.map_map]
    rfl
  simp only [Graph.Uniform, hgh.children, hprefix h, hgh.node, ← hprefix g]

theorem vote_iff (hgh : Relabelled g h) (root a b s : Slot) :
    h.Vote root a b s ↔ (h.payloadAt a).isSome = true ∧ (h.payloadAt b).isSome = true ∧
      a < b ∧ (∃ d, g.Distance root a d ∧ g.Distance root b d) ∧ g.lca? a b = some s := by
  constructor
  · rintro ⟨hab, ha, hb, ⟨d, hda, hdb⟩, hmeet⟩
    rw [hgh.distance_iff] at hda hdb
    exact ⟨ha, hb, hab, ⟨d, hda, hdb⟩, (hgh.lca? a b).symm.trans hmeet⟩
  · rintro ⟨ha, hb, hab, ⟨d, hda, hdb⟩, hmeet⟩
    rw [← hgh.distance_iff] at hda hdb
    exact ⟨hab, ha, hb, ⟨d, hda, hdb⟩, (hgh.lca? a b).trans hmeet⟩

end Relabelled

namespace Graph

theorem payloadAt_pass_of_ne (g : Graph) {l : Label} (hl : l ≠ .title) (ss : List Slot) (s : Slot) :
    (g.pass l ss).graph.payloadAt s = g.payloadAt s := by
  rw [pass, Labelling.step_eq_add hl]
  exact Labelling.payloadAt_foldl_add _ l (.start g) ss s

theorem payloadAt_pass_of_some (g : Graph) (l : Label) (ss : List Slot) {s : Slot} {p : Payload}
    (hp : g.payloadAt s = some p) : (g.pass l ss).graph.payloadAt s = some p := by
  by_cases hl : l = .title
  · subst hl
    exact Labelling.payloadAt_foldl_addTitle_of_some (.start g) ss s hp
  · rw [g.payloadAt_pass_of_ne hl, hp]

theorem payloadAt_pass_of_not_mem (g : Graph) (l : Label) (ss : List Slot) {s : Slot}
    (hs : l = .title → s ∉ ss) : (g.pass l ss).graph.payloadAt s = g.payloadAt s := by
  by_cases hl : l = .title
  · subst hl
    exact Labelling.payloadAt_foldl_addTitle_of_not_mem (.start g) ss s (hs rfl)
  · exact g.payloadAt_pass_of_ne hl ss s

section Passes

variable {marked : Label → List Slot}

theorem payloadAt_markAll_of_some (ls : List Label) (g : Graph) {s : Slot} {p : Payload}
    (hp : g.payloadAt s = some p) : (markAll marked ls g).1.payloadAt s = some p := by
  induction ls generalizing g with
  | nil => exact hp
  | cons l ls ih => exact ih _ (g.payloadAt_pass_of_some l (marked l) hp)

theorem payloadAt_markAll_of_not_mem (ls : List Label) (g : Graph) {s : Slot}
    (hs : s ∉ marked .title) : (markAll marked ls g).1.payloadAt s = g.payloadAt s := by
  induction ls generalizing g with
  | nil => rfl
  | cons l ls ih =>
    rw [markAll, ih]
    refine g.payloadAt_pass_of_not_mem l (marked l) ?_
    rintro rfl
    exact hs

theorem isSome_payloadAt_markAll (ls : List Label) (hls : .title ∈ ls) (g : Graph) {s : Slot}
    (hs : s ∈ marked .title) (hlive : g.contains s = true) :
    ((markAll marked ls g).1.payloadAt s).isSome = true := by
  induction ls generalizing g with
  | nil => contradiction
  | cons l ls ih =>
    by_cases hl : l = .title
    · subst hl
      have hfilled : ((g.pass .title (marked .title)).graph.payloadAt s).isSome = true :=
        Labelling.isSome_payloadAt_foldl_addTitle (.start g) (marked .title) s hs hlive
      obtain ⟨p, hp⟩ := Option.isSome_iff_exists.mp hfilled
      rw [markAll, payloadAt_markAll_of_some ls _ hp, Option.isSome_some]
    · have hin : .title ∈ ls := (List.mem_cons.mp hls).resolve_left (Ne.symm hl)
      exact ih hin _ (((g.relabelled_pass l (marked l)).contains s).trans hlive)

end Passes

def lateGrids (g : Graph) (root : Slot) : List Slot :=
  (g.grids root).filter (g.lacks .grid)

end Graph

structure Chained (g h : Graph) (root : Slot) : Prop where
  designated : g.designatedRoot = .ok root
  result : h = (Graph.markAll (g.marked root) classifierOrder g).1

namespace Chained

open PageGraph.Graph

variable {g h : Graph} {root : Slot}

theorem of_runChain {report : ClassifyReport}
    (hrun : g.runChain classifierOrder = (h, .ok report)) : ∃ root, Chained g h root := by
  cases hroot : g.designatedRoot with
  | error e =>
    have herr := (g.runChain_eq_error_iff e).mpr hroot
    rw [hrun] at herr
    contradiction
  | ok root =>
    rw [runChain_eq_markAll hroot] at hrun
    exact ⟨root, hroot, (congrArg Prod.fst hrun).symm⟩

theorem relabelled (c : Chained g h root) : Relabelled g h := by
  rw [c.result]
  exact relabelled_markAll _ _ g

theorem labelsAt (c : Chained g h root) (s : Slot) : h.labelsAt s =
    (g.labelsAt s).map
      (LabelSet.placed (fun l => (g.marked root l).contains s) classifierOrder) := by
  rw [c.result, labelsAt_markAll (g.nodup_marked root)]

theorem mem_labels (c : Chained g h root) {l : Label} {s : Slot} (hs : s ∈ g.marked root l)
    {labels : LabelSet} (hlabels : h.labelsAt s = some labels) : l ∈ labels.toList := by
  have horder : l ∈ classifierOrder := by cases l <;> decide
  rw [c.labelsAt] at hlabels
  obtain ⟨before, _, rfl⟩ := Option.map_eq_some_iff.mp hlabels
  exact (LabelSet.mem_placed _ _ _ _).mpr (.inr ⟨horder, List.contains_iff_mem.mpr hs⟩)

theorem lacks_eq_false (c : Chained g h root) {l : Label} {s : Slot} (hs : s ∈ g.marked root l) :
    h.lacks l s = false := by
  rw [lacks]
  cases hlabels : h.labelsAt s with
  | none => rfl
  | some labels => simp [LabelSet.contains_iff, c.mem_labels hs hlabels]

theorem isSome_payloadAt_heading (c : Chained g h root) {s : Slot} (hs : s ∈ g.marked root .title) :
    (h.payloadAt s).isSome = true := by
  rw [c.result]
  exact isSome_payloadAt_markAll _ (by decide) g hs (contains_of_mem_marked hs)

section Again

variable {k : Graph} (c : Chained g h root) (c' : Chained h k root)

include c c'

theorem payloadAt_again (s : Slot) : k.payloadAt s = h.payloadAt s := by
  by_cases hs : s ∈ h.marked root .title
  · rw [c.relabelled.marked root (by decide)] at hs
    obtain ⟨p, hp⟩ := Option.isSome_iff_exists.mp (c.isSome_payloadAt_heading hs)
    rw [c'.result, payloadAt_markAll_of_some _ h hp, hp]
  · rw [c'.result, payloadAt_markAll_of_not_mem _ h hs]

theorem labelsAt_again (s : Slot) : k.labelsAt s =
    (h.labelsAt s).map fun labels =>
      if s ∈ h.lateGrids root then labels.addFront .grid else labels := by
  rw [c'.labelsAt]
  cases hlabels : h.labelsAt s with
  | none => rfl
  | some labels =>
    have hrest (m : LabelSet) (hm : ∀ l ∈ labels.toList, l ∈ m.toList) :
        LabelSet.placed (fun l => (h.marked root l).contains s) [.linkList, .title, .link] m =
          m := by
      refine LabelSet.placed_of_mem _ ?_
      intro l hl hs
      have hne : l ≠ .grid := by
        rintro rfl
        simp at hl
      rw [c.relabelled.marked root hne, List.contains_iff_mem] at hs
      exact hm l (c.mem_labels hs hlabels)
    have hlate : s ∈ h.lateGrids root ↔ s ∈ h.grids root ∧ .grid ∉ labels.toList := by
      rw [lateGrids, List.mem_filter, lacks, hlabels, Option.any_some, Bool.not_eq_true',
        ← Bool.not_eq_true, LabelSet.contains_iff]
    rw [Option.map_some, Option.map_some, Option.some.injEq, classifierOrder, LabelSet.placed]
    by_cases hs : s ∈ h.grids root
    · have hmarked : (h.marked root .grid).contains s = true := List.contains_iff_mem.mpr hs
      rw [if_pos hmarked, hrest _ fun l hl => (LabelSet.mem_place _ _ _).mpr (.inr hl)]
      by_cases hl : .grid ∈ labels.toList
      · rw [LabelSet.place_of_mem hl, if_neg fun h => (hlate.mp h).2 hl]
      · rw [if_pos (hlate.mpr ⟨hs, hl⟩)]
        rfl
    · have hmarked : ¬ (h.marked root .grid).contains s = true := by
        rwa [List.contains_iff_mem]
      rw [if_neg hmarked, hrest _ fun l hl => hl, if_neg fun h => hs (hlate.mp h).1]

theorem node?_again (s : Slot) : k.node? s =
    (h.node? s).map fun n =>
      { n with labels := if s ∈ h.lateGrids root then n.labels.addFront .grid else n.labels } :=
  c'.relabelled.node?_eq (c.labelsAt_again c' s) (c.payloadAt_again c' s)

theorem eq_again (hnil : h.lateGrids root = []) : k = h := by
  refine ext_node? c'.relabelled.size ?_ c'.relabelled.free c'.relabelled.edges
  intro s
  rw [c.node?_again c', hnil]
  simp

end Again

theorem gained_again (c : Chained g h root) :
    (markAll (h.marked root) classifierOrder h).2 =
      [(.grid, (h.lateGrids root).length), (.linkList, 0), (.title, 0), (.link, 0)] := by
  have hzero (l : Label) (hl : l ≠ .grid) : (h.marked root l).countP (h.lacks l) = 0 := by
    rw [List.countP_eq_zero, c.relabelled.marked root hl]
    intro s hs
    rw [c.lacks_eq_false hs]
    decide
  rw [gained_markAll (h.nodup_marked root) _ (by decide), lateGrids, ← List.countP_eq_length_filter]
  simp only [classifierOrder, List.map_cons, List.map_nil, hzero .linkList (by decide),
    hzero .title (by decide), hzero .link (by decide)]
  rfl

section Unlabelled

variable (c : Chained g h root) (hg : g.Simple)
  (hblank : ∀ s n, g.node? s = some n → n.labels = .empty)

include c hg hblank

theorem mem_lateGrids (s : Slot) :
    s ∈ h.lateGrids root ↔ (∃ a b, h.Vote root a b s) ∧ (¬ ∃ a b, g.Vote root a b s) ∧
      h.children s ≠ [] ∧ h.Uniform s Node.idPrefix ∧ h.Uniform s (·.labels.first?) := by
  have hh : h.Simple := hg.congr c.relabelled.edges c.relabelled.contains
  have hlabelled : s ∈ h.labelled .grid ↔ s ∈ g.grids root := by
    rw [c.result]
    exact mem_labelled_markAll hblank .grid s
  rw [lateGrids, List.mem_filter, hh.mem_grids, lacks_iff, hlabelled,
    hg.mem_grids_of_unlabelled hblank, ← c.relabelled.contains, ← c.relabelled.children,
    ← c.relabelled.uniform_idPrefix]
  constructor
  · rintro ⟨⟨hlive, hvote, hne, hprefix, hfirst⟩, _, hnot⟩
    exact ⟨hvote, fun hearly => hnot ⟨hlive, hearly, hne, hprefix⟩, hne, hprefix, hfirst⟩
  · rintro ⟨hvote, hnot, hne, hprefix, hfirst⟩
    obtain ⟨t, ht⟩ := List.exists_mem_of_ne_nil _ hne
    have hlive := (hh.live _ ((h.mem_children s t).mp ht)).1
    exact ⟨⟨hlive, hvote, hne, hprefix, hfirst⟩, hlive, fun hgrid => hnot hgrid.2.1⟩

theorem lateGrids_eq_nil
    (hfilled : ∀ s n, g.node? s = some n → n.isHeading = true → n.payload.isSome = true) :
    h.lateGrids root = [] := by
  have hpayload (s : Slot) : h.payloadAt s = g.payloadAt s := by
    by_cases hs : s ∈ g.marked root .title
    · obtain ⟨n, hn, hheading⟩ := (g.mem_slotsWhere _ s).mp hs
      obtain ⟨p, hp⟩ := Option.isSome_iff_exists.mp (hfilled s n hn hheading)
      have hat : g.payloadAt s = some p := by
        rw [payloadAt, hn, Option.bind_some, hp]
      rw [c.result, payloadAt_markAll_of_some _ g hat, hat]
    · rw [c.result, payloadAt_markAll_of_not_mem _ g hs]
  refine List.eq_nil_iff_forall_not_mem.mpr ?_
  intro s hs
  obtain ⟨⟨a, b, hvote⟩, hnot, _⟩ := (c.mem_lateGrids hg hblank s).mp hs
  rw [c.relabelled.vote_iff, hpayload, hpayload, ← (Relabelled.refl g).vote_iff] at hvote
  exact hnot ⟨a, b, hvote⟩

end Unlabelled

end Chained

end PageGraph
