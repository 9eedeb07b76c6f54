import PageGraph.Proofs.Build.Preorder
import PageGraph.Proofs.Graph.InPreorder

namespace PageGraph

open Markup

namespace Found

variable {parent : Option Slot} {start : Nat} {fs gs : List Found}

def Under (start : Nat) (fs : List Found) (a c : Slot) : Prop :=
  ∃ i f, fs[i]? = some f ∧ start + i = c ∧ f.parent = some a

theorem Under.append_right {a c : Slot} (h : Under start fs a c) (gs : List Found) :
    Under start (fs ++ gs) a c := by
  obtain ⟨i, f, hf, hc, hp⟩ := h
  have hi := (List.getElem?_eq_some_iff.mp hf).1
  exact ⟨i, f, by rw [List.getElem?_append_left hi, hf], hc, hp⟩

theorem Under.append_left {a c : Slot} (h : Under (start + fs.length) gs a c) :
    Under start (fs ++ gs) a c := by
  obtain ⟨i, f, hf, hc, hp⟩ := h
  refine ⟨fs.length + i, f, ?_, by omega, hp⟩
  rw [List.getElem?_append_right (by omega), Nat.add_sub_cancel_left, hf]

structure Stretch (parent : Option Slot) (start : Nat) (fs : List Found) : Prop where
  first : ∀ f, fs[0]? = some f → f.parent = parent
  below : ∀ p, parent = some p → ∀ i < fs.length, Relation.TransGen (Under start fs) p (start + i)
  next : ∀ i f p, fs[i + 1]? = some f → f.parent = some p →
    Relation.ReflTransGen (Under start fs) p (start + i)

theorem stretch_nil : Stretch parent start [] :=
  ⟨by simp, by simp, by simp⟩

theorem Stretch.append (hfs : Stretch parent start fs)
    (hgs : Stretch parent (start + fs.length) gs) : Stretch parent start (fs ++ gs) := by
  have hleft (a c : Slot) (h : Under start fs a c) := h.append_right gs
  have hright (a c : Slot) (h : Under (start + fs.length) gs a c) := h.append_left
  constructor
  · intro f hf
    cases fs with
    | nil => exact hgs.first f hf
    | cons g fs => exact hfs.first f hf
  · intro p hp i hi
    by_cases hlt : i < fs.length
    · exact Relation.TransGen.mono hleft _ _ (hfs.below p hp i hlt)
    · rw [List.length_append] at hi
      have hbelow := Relation.TransGen.mono hright _ _ (hgs.below p hp (i - fs.length) (by omega))
      rwa [Nat.add_assoc, Nat.add_sub_cancel' (by omega)] at hbelow
  · intro i f p hf hp
    rcases Nat.lt_trichotomy (i + 1) fs.length with hlt | heq | hgt
    · rw [List.getElem?_append_left hlt] at hf
      exact Relation.ReflTransGen.mono hleft _ _ (hfs.next i f p hf hp)
    · -- The second stretch hangs from where the first one does.
      rw [List.getElem?_append_right (by omega), heq, Nat.sub_self] at hf
      have hparent := (hgs.first f hf).symm.trans hp
      exact (Relation.TransGen.mono hleft _ _ (hfs.below p hparent i (by omega))).to_reflTransGen
    · obtain ⟨j, rfl⟩ := Nat.exists_eq_add_of_le (Nat.le_of_lt_succ hgt)
      rw [List.getElem?_append_right (by omega), Nat.add_assoc, Nat.add_sub_cancel_left] at hf
      have hnext := Relation.ReflTransGen.mono hright _ _ (hgs.next j f p hf hp)
      rwa [Nat.add_assoc] at hnext

theorem Stretch.cons (hfs : Stretch (some start) (start + 1) fs) (c : Content) :
    Stretch parent start (⟨c, parent⟩ :: fs) := by
  have hright (a d : Slot) (h : Under (start + 1) fs a d) :
      Under start (⟨c, parent⟩ :: fs) a d :=
    @Under.append_left start [⟨c, parent⟩] fs a d h
  constructor
  · intro f hf
    cases hf
    rfl
  · intro p hp i hi
    have hhead : Under start (⟨c, parent⟩ :: fs) p start := ⟨0, ⟨c, parent⟩, rfl, rfl, hp⟩
    cases i with
    | zero => exact .single hhead
    | succ i =>
      have hbelow := Relation.TransGen.mono hright _ _
        (hfs.below start rfl i (Nat.lt_of_succ_lt_succ hi))
      rw [Nat.add_right_comm, Nat.add_assoc] at hbelow
      exact .head hhead hbelow
  · intro i f p hf hp
    cases i with
    | zero =>
      have hparent := (hfs.first f hf).symm.trans hp
      rw [← Option.some.inj hparent, Nat.add_zero]
    | succ i =>
      have hnext := Relation.ReflTransGen.mono hright _ _ (hfs.next i f p hf hp)
      rwa [Nat.add_right_comm, Nat.add_assoc] at hnext

end Found

theorem Markup.Content.stretch_preorderAll (config : BuildConfig) (parent : Option Slot)
    (start : Nat) (cs : List Content) :
    Found.Stretch parent start (preorderAll config parent start cs) := by
  match cs with
  | [] => exact Found.stretch_nil
  | c :: cs =>
    refine Found.Stretch.append ?_ (stretch_preorderAll config parent _ cs)
    rw [preorder_eq]
    split
    · exact (stretch_preorderAll config (some start) (start + 1) c.inside).cons c
    · exact Found.stretch_nil
termination_by sizeOfAll cs
decreasing_by
  · have := c.sizeOfAll_inside
    simp only [sizeOfAll]
    omega
  · have := c.size_pos
    simp only [sizeOfAll]
    omega

theorem Found.inPreorder_graph (config : BuildConfig) (d : Document) :
    (graph (ofDocument config d)).InPreorder := by
  have hall := Content.stretch_preorderAll config none 0 d.children
  have hunder (a c : Slot) (h : Under 0 (ofDocument config d) a c) :
      (graph (ofDocument config d)).Edge a c := by
    obtain ⟨i, f, hf, hc, hp⟩ := h
    rw [← hc, Nat.zero_add]
    exact edge_graph_iff.mpr ⟨f, hf, hp⟩
  apply Graph.inPreorder_of_next
  · intro p he
    obtain ⟨f, hf, hp⟩ := edge_graph_iff.mp he
    have hnone := (hall.first f hf).symm.trans hp
    contradiction
  · intro p c he
    obtain ⟨f, hf, hp⟩ := edge_graph_iff.mp he
    have hnext := hall.next c f p hf hp
    rw [Nat.zero_add] at hnext
    exact Relation.ReflTransGen.mono hunder _ _ hnext

end PageGraph
