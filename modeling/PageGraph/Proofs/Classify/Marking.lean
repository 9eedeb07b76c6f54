import PageGraph.Proofs.Classify.Relabelling

namespace PageGraph

namespace Graph

def labelsAt (g : Graph) (s : Slot) : Option LabelSet :=
  (g.node? s).map (·.labels)

def payloadAt (g : Graph) (s : Slot) : Option Payload :=
  (g.node? s).bind (·.payload)

def lacks (g : Graph) (l : Label) (s : Slot) : Bool :=
  (g.labelsAt s).any fun labels => !labels.contains l

theorem mem_labelled (g : Graph) (l : Label) (s : Slot) :
    s ∈ g.labelled l ↔ ∃ labels, g.labelsAt s = some labels ∧ l ∈ labels.toList := by
  rw [labelled, mem_slotsWhere]
  constructor
  · rintro ⟨n, hn, hl⟩
    refine ⟨n.labels, ?_, (n.labels.contains_iff l).mp hl⟩
    rw [labelsAt, hn, Option.map_some]
  · rintro ⟨labels, hlabels, hl⟩
    obtain ⟨n, hn, rfl⟩ := Option.map_eq_some_iff.mp hlabels
    exact ⟨n, hn, (n.labels.contains_iff l).mpr hl⟩

theorem contains_iff_labelsAt (g : Graph) (s : Slot) :
    g.contains s = true ↔ ∃ labels, g.labelsAt s = some labels := by
  simp [contains, labelsAt, Option.isSome_iff_exists]

theorem lacks_iff (g : Graph) (l : Label) (s : Slot) :
    g.lacks l s = true ↔ g.contains s = true ∧ s ∉ g.labelled l := by
  rw [mem_labelled, contains_iff_labelsAt, lacks]
  cases g.labelsAt s <;> simp [LabelSet.contains]

end Graph

namespace LabelSet

theorem addFront_of_mem {s : LabelSet} {l : Label} (h : l ∈ s.toList) : s.addFront l = s :=
  dif_pos h

theorem addBack_of_mem {s : LabelSet} {l : Label} (h : l ∈ s.toList) : s.addBack l = s :=
  dif_pos h

end LabelSet

structure Marks (place : LabelSet → Label → LabelSet) (l : Label)
    (step : Labelling → Slot → Labelling) : Prop where
  labelsAt : ∀ r s t, (step r s).graph.labelsAt t =
    if t = s then (r.graph.labelsAt t).map (place · l) else r.graph.labelsAt t
  gained : ∀ r s, (step r s).gained = r.gained + (r.graph.lacks l s).toNat

namespace Labelling

theorem marks_add (place : LabelSet → Label → LabelSet) (l : Label) :
    Marks place l (add place l) := by
  constructor
  · intro r s t
    unfold add
    split
    · next hs =>
      by_cases ht : t = s
      · subst ht
        simp [Graph.labelsAt, hs]
      · rw [if_neg ht]
    · by_cases ht : t = s
      · simp [Graph.labelsAt, Graph.node?_modify, ht, Function.comp_def]
      · simp [Graph.labelsAt, Graph.node?_modify, ht]
  · intro r s
    unfold add
    split
    · next hs => simp [Graph.lacks, Graph.labelsAt, hs]
    · next n hs =>
      by_cases hl : n.labels.contains l = true
      · simp [Graph.lacks, Graph.labelsAt, hs, hl]
      · simp [Graph.lacks, Graph.labelsAt, hs, hl]

theorem labelsAt_fillPayload (g : Graph) (s t : Slot) :
    (g.fillPayload s).labelsAt t = g.labelsAt t := by
  simp only [Graph.fillPayload, Graph.labelsAt, Graph.node?_modify]
  split
  · rw [Option.map_map, Function.comp_def]
  · rfl

theorem marks_addTitle : Marks .addBack .title addTitle := by
  obtain ⟨hlabels, hgained⟩ := marks_add .addBack .title
  constructor
  · intro r s t
    rw [addTitle, hlabels, labelsAt_fillPayload]
  · intro r s
    rw [addTitle, hgained, Graph.lacks, labelsAt_fillPayload, Graph.lacks]

end Labelling

namespace Marks

variable {place : LabelSet → Label → LabelSet} {l : Label} {step : Labelling → Slot → Labelling}

theorem labelsAt_foldl (h : Marks place l step) (r : Labelling) (ss : List Slot) (hss : ss.Nodup)
    (t : Slot) : (ss.foldl step r).graph.labelsAt t =
      if t ∈ ss then (r.graph.labelsAt t).map (place · l) else r.graph.labelsAt t := by
  induction ss generalizing r with
  | nil => rfl
  | cons s ss ih =>
    obtain ⟨hs, hss⟩ := List.nodup_cons.mp hss
    rw [List.foldl_cons, ih (step r s) hss, h.labelsAt]
    by_cases ht : t = s
    · subst ht
      simp [hs]
    · simp [ht]

theorem gained_foldl (h : Marks place l step) (r : Labelling) (ss : List Slot) (hss : ss.Nodup) :
    (ss.foldl step r).gained = r.gained + ss.countP (r.graph.lacks l) := by
  induction ss generalizing r with
  | nil => rfl
  | cons s ss ih =>
    obtain ⟨hs, hss⟩ := List.nodup_cons.mp hss
    have hrest : ss.countP ((step r s).graph.lacks l) = ss.countP (r.graph.lacks l) := by
      refine List.countP_congr ?_
      intro t ht
      have hne : t ≠ s := by
        rintro rfl
        exact hs ht
      rw [Graph.lacks, h.labelsAt, if_neg hne, Graph.lacks]
    rw [List.foldl_cons, ih (step r s) hss, h.gained, hrest, List.countP_cons]
    cases r.graph.lacks l s
    · simp
    · simp only [Bool.toNat_true, if_true]
      omega

end Marks

namespace Labelling

theorem payloadAt_add (place : LabelSet → Label → LabelSet) (l : Label) (r : Labelling)
    (s t : Slot) : (r.add place l s).graph.payloadAt t = r.graph.payloadAt t := by
  unfold add
  split
  · rfl
  · simp only [Graph.payloadAt, Graph.node?_modify]
    split
    · rw [Option.bind_map, Function.comp_def]
    · rfl

theorem payloadAt_foldl_add (place : LabelSet → Label → LabelSet) (l : Label) (r : Labelling)
    (ss : List Slot) (t : Slot) :
    (ss.foldl (add place l) r).graph.payloadAt t = r.graph.payloadAt t := by
  induction ss generalizing r with
  | nil => rfl
  | cons s ss ih => rw [List.foldl_cons, ih, payloadAt_add]

theorem payloadAt_addTitle_of_ne (r : Labelling) {s t : Slot} (ht : t ≠ s) :
    (r.addTitle s).graph.payloadAt t = r.graph.payloadAt t := by
  rw [addTitle, payloadAt_add]
  simp [Graph.fillPayload, Graph.payloadAt, Graph.node?_modify, ht]

theorem payloadAt_addTitle_of_some (r : Labelling) (s t : Slot) {p : Payload}
    (hp : r.graph.payloadAt t = some p) : (r.addTitle s).graph.payloadAt t = some p := by
  by_cases ht : t = s
  · subst ht
    obtain ⟨n, hn, hnp⟩ := Option.bind_eq_some_iff.mp hp
    rw [addTitle, payloadAt_add]
    simp [Graph.fillPayload, Graph.payloadAt, Graph.node?_modify, hn, hnp]
  · rw [payloadAt_addTitle_of_ne r ht, hp]

theorem isSome_payloadAt_addTitle (r : Labelling) (s : Slot) (hs : r.graph.contains s = true) :
    ((r.addTitle s).graph.payloadAt s).isSome = true := by
  obtain ⟨n, hn⟩ := (r.graph.contains_iff s).mp hs
  rw [addTitle, payloadAt_add]
  cases hp : n.payload <;> simp [Graph.fillPayload, Graph.payloadAt, Graph.node?_modify, hn, hp]

theorem payloadAt_foldl_addTitle_of_some (r : Labelling) (ss : List Slot) (t : Slot) {p : Payload}
    (hp : r.graph.payloadAt t = some p) : (ss.foldl addTitle r).graph.payloadAt t = some p := by
  induction ss generalizing r with
  | nil => exact hp
  | cons s ss ih => exact ih (r.addTitle s) (payloadAt_addTitle_of_some r s t hp)

theorem payloadAt_foldl_addTitle_of_not_mem (r : Labelling) (ss : List Slot) (t : Slot)
    (ht : t ∉ ss) : (ss.foldl addTitle r).graph.payloadAt t = r.graph.payloadAt t := by
  induction ss generalizing r with
  | nil => rfl
  | cons s ss ih =>
    have hs : t ≠ s := List.ne_of_not_mem_cons ht
    have hss : t ∉ ss := List.not_mem_of_not_mem_cons ht
    rw [List.foldl_cons, ih (r.addTitle s) hss, payloadAt_addTitle_of_ne r hs]

theorem isSome_payloadAt_foldl_addTitle (r : Labelling) (ss : List Slot) (t : Slot) (ht : t ∈ ss)
    (hlive : r.graph.contains t = true) :
    ((ss.foldl addTitle r).graph.payloadAt t).isSome = true := by
  induction ss generalizing r with
  | nil => simp at ht
  | cons s ss ih =>
    rw [List.foldl_cons]
    by_cases hts : t = s
    · obtain ⟨p, hp⟩ := Option.isSome_iff_exists.mp (isSome_payloadAt_addTitle r t hlive)
      rw [← hts, payloadAt_foldl_addTitle_of_some (r.addTitle t) ss t hp, Option.isSome_some]
    · have hin : t ∈ ss := (List.mem_cons.mp ht).resolve_left hts
      exact ih (r.addTitle s) hin (((relabelled_addTitle r s).contains t).trans hlive)

end Labelling

end PageGraph
