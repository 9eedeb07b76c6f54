import PageGraph.Proofs.Classify.Grid

/-!
What the usual chain of classifiers does. Grids come first, so that they see the graph as it was.
What the other passes look for, tags and edges, is changed by none, so that it can be read off the
graph as it was, too.
-/

namespace PageGraph

namespace LabelSet

def place : Label → LabelSet → Label → LabelSet
  | .grid | .link => addFront
  | .linkList | .title => addBack

theorem mem_place (l : Label) (s : LabelSet) (m : Label) :
    m ∈ (place l s l).toList ↔ m = l ∨ m ∈ s.toList := by
  cases l
  case grid | link => exact s.mem_addFront _ m
  case linkList | title => exact s.mem_addBack _ m

theorem contains_place_of_ne {l m : Label} (h : m ≠ l) (s : LabelSet) :
    (place l s l).contains m = s.contains m := by
  rw [Bool.eq_iff_iff, contains_iff, contains_iff, mem_place]
  exact or_iff_right h

theorem place_of_mem {l : Label} {s : LabelSet} (h : l ∈ s.toList) : place l s l = s := by
  cases l
  case grid | link => exact addFront_of_mem h
  case linkList | title => exact addBack_of_mem h

def placed (marked : Label → Bool) : List Label → LabelSet → LabelSet
  | [], s => s
  | l :: ls, s => placed marked ls (if marked l then place l s l else s)

theorem mem_placed (marked : Label → Bool) (ls : List Label) (s : LabelSet) (m : Label) :
    m ∈ (placed marked ls s).toList ↔ m ∈ s.toList ∨ (m ∈ ls ∧ marked m = true) := by
  induction ls generalizing s with
  | nil => simp [placed]
  | cons l ls ih =>
    rw [placed, ih, List.mem_cons]
    by_cases hl : marked l = true
    · rw [if_pos hl, mem_place]
      constructor
      · rintro ((rfl | hm) | ⟨hm, hmarked⟩)
        · exact .inr ⟨.inl rfl, hl⟩
        · exact .inl hm
        · exact .inr ⟨.inr hm, hmarked⟩
      · rintro (hm | ⟨rfl | hm, hmarked⟩)
        · exact .inl (.inr hm)
        · exact .inl (.inl rfl)
        · exact .inr ⟨hm, hmarked⟩
    · rw [if_neg hl]
      constructor
      · rintro (hm | ⟨hm, hmarked⟩)
        · exact .inl hm
        · exact .inr ⟨.inr hm, hmarked⟩
      · rintro (hm | ⟨rfl | hm, hmarked⟩)
        · exact .inl hm
        · exact absurd hmarked hl
        · exact .inr ⟨hm, hmarked⟩

theorem toList_placed_empty (marked : Label → Bool) :
    (placed marked classifierOrder empty).toList =
      [Label.link, .grid, .linkList, .title].filter marked := by
  simp only [placed, classifierOrder, List.filter_cons, List.filter_nil]
  cases marked .grid <;> cases marked .linkList <;> cases marked .title <;> cases marked .link <;>
    rfl

end LabelSet

namespace Labelling

def step : Label → Labelling → Slot → Labelling
  | .title => addTitle
  | l => add (LabelSet.place l) l

theorem step_eq_add {l : Label} (hl : l ≠ .title) : step l = add (LabelSet.place l) l := by
  cases l with
  | title => contradiction
  | _ => rfl

theorem marks_step (l : Label) : Marks (LabelSet.place l) l (step l) := by
  by_cases hl : l = .title
  · subst hl
    exact marks_addTitle
  · rw [step_eq_add hl]
    exact marks_add _ l

theorem relabelled_step (l : Label) (r : Labelling) (s : Slot) :
    Relabelled r.graph (step l r s).graph := by
  by_cases hl : l = .title
  · subst hl
    exact relabelled_addTitle r s
  · rw [step_eq_add hl]
    exact relabelled_add _ l r s

end Labelling

namespace Graph

def pass (g : Graph) (l : Label) (ss : List Slot) : Labelling :=
  ss.foldl (Labelling.step l) (.start g)

def markAll (marked : Label → List Slot) : List Label → Graph → Graph × List (Label × Nat)
  | [], g => (g, [])
  | l :: ls, g =>
    let r := g.pass l (marked l)
    let rest := markAll marked ls r.graph
    (rest.1, (l, r.gained) :: rest.2)

section Passes

variable {marked : Label → List Slot} (hmarked : ∀ l, (marked l).Nodup)

theorem relabelled_pass (g : Graph) (l : Label) (ss : List Slot) :
    Relabelled g (g.pass l ss).graph :=
  Labelling.relabelled_foldl _ (Labelling.relabelled_step l) (.start g) ss

theorem relabelled_markAll (marked : Label → List Slot) (ls : List Label) (g : Graph) :
    Relabelled g (markAll marked ls g).1 := by
  induction ls generalizing g with
  | nil => exact .refl g
  | cons l ls ih => exact (g.relabelled_pass l (marked l)).trans (ih _)

theorem labelsAt_pass (g : Graph) (l : Label) {ss : List Slot} (hss : ss.Nodup) (s : Slot) :
    (g.pass l ss).graph.labelsAt s =
      (g.labelsAt s).map fun labels =>
        if ss.contains s then LabelSet.place l labels l else labels := by
  rw [pass, (Labelling.marks_step l).labelsAt_foldl _ _ hss, Labelling.start]
  by_cases hs : s ∈ ss <;> simp [hs]

theorem gained_pass (g : Graph) (l : Label) {ss : List Slot} (hss : ss.Nodup) :
    (g.pass l ss).gained = ss.countP (g.lacks l) := by
  rw [pass, (Labelling.marks_step l).gained_foldl _ _ hss, Labelling.start, Nat.zero_add]

theorem lacks_pass_of_ne (g : Graph) {l m : Label} (hm : m ≠ l) {ss : List Slot} (hss : ss.Nodup)
    (s : Slot) : (g.pass l ss).graph.lacks m s = g.lacks m s := by
  rw [lacks, labelsAt_pass g l hss, lacks, Option.any_map]
  congr 1
  funext labels
  by_cases hs : ss.contains s = true
  · rw [if_pos hs, LabelSet.contains_place_of_ne hm]
  · rw [if_neg hs]

include hmarked

theorem labelsAt_markAll (ls : List Label) (g : Graph) (s : Slot) :
    (markAll marked ls g).1.labelsAt s =
      (g.labelsAt s).map (LabelSet.placed (fun l => (marked l).contains s) ls) := by
  induction ls generalizing g with
  | nil => exact (congrFun Option.map_id _).symm
  | cons l ls ih =>
    rw [markAll, ih, labelsAt_pass g l (hmarked l), Option.map_map]
    rfl

theorem gained_markAll (ls : List Label) (hls : ls.Nodup) (g : Graph) :
    (markAll marked ls g).2 = ls.map fun l => (l, (marked l).countP (g.lacks l)) := by
  induction ls generalizing g with
  | nil => rfl
  | cons l ls ih =>
    obtain ⟨hl, hls⟩ := List.nodup_cons.mp hls
    have hrest (m : Label) (hm : m ∈ ls) :
        (g.pass l (marked l)).graph.lacks m = g.lacks m := by
      refine funext (g.lacks_pass_of_ne ?_ (hmarked l))
      rintro rfl
      exact hl hm
    have htail := ih hls (g.pass l (marked l)).graph
    rw [List.map_congr_left fun m hm => by rw [hrest m hm]] at htail
    simp only [markAll, htail, gained_pass g l (hmarked l), List.map_cons]

end Passes

def marked (g : Graph) (root : Slot) : Label → List Slot
  | .grid => g.grids root
  | .linkList => (g.nodes.map (·.1)).filter g.isLinkList
  | .title => g.slotsWhere (·.isHeading)
  | .link => g.slotsWhere (·.isAnchor)

theorem nodup_marked (g : Graph) (root : Slot) (l : Label) : (g.marked root l).Nodup := by
  cases l with
  | title => exact g.nodup_slotsWhere _
  | link => exact g.nodup_slotsWhere _
  | linkList => exact g.nodup_map_fst_nodes.filter _
  | grid => exact g.nodup_grids root

theorem contains_of_mem_marked {g : Graph} {root : Slot} {l : Label} {s : Slot}
    (hs : s ∈ g.marked root l) : g.contains s = true := by
  have hslots (p : Slot → Bool) (h : s ∈ (g.nodes.map (·.1)).filter p) : g.contains s = true :=
    (g.mem_map_fst_nodes s).mp (List.mem_filter.mp h).1
  have hwhere (p : Node → Bool) (h : s ∈ g.slotsWhere p) : g.contains s = true := by
    obtain ⟨n, hn, _⟩ := (g.mem_slotsWhere p s).mp h
    exact (g.contains_iff s).mpr ⟨n, hn⟩
  cases l with
  | title => exact hwhere _ hs
  | link => exact hwhere _ hs
  | linkList => exact hslots _ hs
  | grid => exact hslots _ hs

theorem classify_eq_ok (g : Graph) (l : Label) (r : Labelling) :
    g.classify l = .ok r ↔
      ∃ root, (l = .grid → g.designatedRoot = .ok root) ∧ r = g.pass l (g.marked root l) := by
  by_cases hl : l = .grid
  · subst hl
    constructor
    · intro h
      obtain ⟨_, hcandidates, _⟩ := bind_eq_ok.mp h
      obtain ⟨root, hroot, _⟩ := bind_eq_ok.mp hcandidates
      rw [classify, labelGrids_eq hroot, Except.ok.injEq] at h
      exact ⟨root, fun _ => hroot, h.symm⟩
    · rintro ⟨root, hroot, rfl⟩
      exact labelGrids_eq (hroot rfl)
  · have hpass (root : Slot) : g.classify l = .ok (g.pass l (g.marked root l)) := by
      cases l with
      | grid => contradiction
      | _ => rfl
    constructor
    · intro h
      exact ⟨0, fun hgrid => absurd hgrid hl, Except.ok.inj (h.symm.trans (hpass 0))⟩
    · rintro ⟨root, -, rfl⟩
      exact hpass root

theorem mem_labelled_pass_marked (g : Graph) (root : Slot) (l m : Label) (s : Slot) :
    s ∈ (g.pass l (g.marked root l)).graph.labelled m ↔
      s ∈ g.labelled m ∨ m = l ∧ s ∈ g.marked root l := by
  rw [mem_labelled, labelsAt_pass g l (g.nodup_marked root l), mem_labelled]
  by_cases hs : s ∈ g.marked root l
  · obtain ⟨labels, hlabels⟩ := (g.contains_iff_labelsAt s).mp (contains_of_mem_marked hs)
    simp [hlabels, hs, LabelSet.mem_place, or_comm]
  · simp [hs]

end Graph

namespace Relabelled

variable {g h : Graph}

theorem any_node? (hgh : Relabelled g h) (p : Node → Bool) (hp : ∀ n, p n.bare = p n) (s : Slot) :
    (h.node? s).any p = (g.node? s).any p := by
  have hbare (o : Option Node) : o.any p = (o.map Node.bare).any p := by
    cases o with
    | none => rfl
    | some n => exact (hp n).symm
  rw [hbare, hgh.node, ← hbare]

theorem isLinkList (hgh : Relabelled g h) (s : Slot) : h.isLinkList s = g.isLinkList s := by
  have hanchor (c : Slot) := hgh.any_node? Node.isAnchor (fun _ => rfl) c
  simp only [Graph.isLinkList, hgh.children, hanchor]

theorem marked (hgh : Relabelled g h) (root : Slot) {l : Label} (hl : l ≠ .grid) :
    h.marked root l = g.marked root l := by
  cases l with
  | title => exact hgh.slotsWhere _ fun _ => rfl
  | link => exact hgh.slotsWhere _ fun _ => rfl
  | linkList =>
    have hslots : h.nodes.map (·.1) = g.nodes.map (·.1) := by
      have hnodes := congrArg (List.map (·.1)) hgh.nodes
      simpa only [List.map_map, Function.comp_def] using hnodes
    rw [Graph.marked, Graph.marked, hslots, funext hgh.isLinkList]
  | grid => contradiction

theorem designatedRoot (hgh : Relabelled g h) : h.designatedRoot = g.designatedRoot := by
  rw [Graph.designatedRoot, Graph.designatedRoot, hgh.nodeCount, hgh.roots]

end Relabelled

namespace Graph

variable {g : Graph} {root : Slot}

theorem classifyAll_eq_markAll {h : Graph} (hgh : Relabelled g h) (root : Slot)
    (report : ClassifyReport) (ls : List Label) (hls : .grid ∉ ls) :
    h.classifyAll report ls =
      ((markAll (g.marked root) ls h).1,
        .ok ((markAll (g.marked root) ls h).2.foldl (fun r e => r.put e.1 e.2) report)) := by
  induction ls generalizing h report with
  | nil => rfl
  | cons l ls ih =>
    have hl : l ≠ .grid := by
      rintro rfl
      exact hls List.mem_cons_self
    have hpass : h.classify l = .ok (h.pass l (g.marked root l)) := by
      rw [← hgh.marked root hl]
      exact (h.classify_eq_ok l _).mpr ⟨root, fun hgrid => absurd hgrid hl, rfl⟩
    simp only [classifyAll, hpass, markAll]
    exact ih (hgh.trans (h.relabelled_pass l _)) _ fun hgrid => hls (List.mem_cons_of_mem _ hgrid)

theorem runChain_eq_markAll (hroot : g.designatedRoot = .ok root) :
    g.runChain classifierOrder =
      ((markAll (g.marked root) classifierOrder g).1,
        .ok ⟨(markAll (g.marked root) classifierOrder g).2⟩) := by
  have hgrids : g.classify .grid = .ok (g.pass .grid (g.marked root .grid)) := labelGrids_eq hroot
  rw [runChain, classifierOrder, classifyAll, hgrids]
  exact classifyAll_eq_markAll (g.relabelled_pass _ _) root _ _ (by decide)

end Graph

end PageGraph
