import Mathlib.Data.List.Basic
import PageGraph.Json.Decode
import PageGraph.Proofs.Numeral

namespace PageGraph.Json

theorem uint64?_ofNat (n : UInt64) : uint64? (ofNat n.toNat) = some n := by
  have htext : (toString n.toNat).toList = Nat.toDigits 10 n.toNat := Nat.toList_repr
  rw [ofNat, uint64?, htext, Numeral.digits?_toDigits, Option.filter_some,
    if_pos (decide_eq_true n.toNat_lt)]
  simp

theorem list?_ofList {α : Type} {write : α → Json} {item? : Json → Option α}
    (h : ∀ a, item? (write a) = some a) (as : List α) : list? item? (ofList write as) = some as := by
  rw [ofList, list?, List.mapM_map]
  induction as with
  | nil => rfl
  | cons a as ih =>
    rw [List.mapM_cons, ih]
    simp [h]

theorem list?_ofTexts (as : List String) : list? text? (ofTexts as) = some as := by
  apply list?_ofList
  intro a
  rfl

section Records

variable {names : List String} {fields : List (String × Json)} {name : String}

theorem record?_object (hknown : ∀ f ∈ fields, f.1 ∈ names) (hnd : (fields.map (·.1)).Nodup) :
    record? names (.object fields) = some ⟨false, fields⟩ := by
  have hall : fields.filter (fun f => names.contains f.1) = fields :=
    List.filter_eq_self.mpr fun f hf => List.contains_iff_mem.mpr (hknown f hf)
  simp only [record?, hall, if_pos hnd]

theorem lookup_eq_none_iff : fields.lookup name = none ↔ name ∉ fields.map (·.1) := by
  rw [List.lookup_eq_none_iff, List.mem_map]
  constructor
  · rintro h ⟨f, hf, rfl⟩
    simpa using h f hf
  · exact fun h f hf => bne_iff_ne.mpr fun heq => h ⟨f, hf, heq.symm⟩

theorem lookup_of_mem (hnd : (fields.map (·.1)).Nodup) {value : Json}
    (hmem : (name, value) ∈ fields) : fields.lookup name = some value := by
  induction fields with
  | nil => contradiction
  | cons f fields ih =>
    obtain ⟨key, value'⟩ := f
    obtain ⟨hkey, hnd⟩ := List.nodup_cons.mp hnd
    rcases List.mem_cons.mp hmem with heq | hrest
    · cases heq
      exact List.lookup_cons_self
    · have hne : name ≠ key := by
        rintro rfl
        exact hkey (List.mem_map_of_mem (f := (·.1)) hrest)
      rw [List.lookup_cons, beq_eq_false_iff_ne.mpr hne]
      exact ih hnd hrest

theorem lookup_filter (hname : name ∈ names) (fields : List (String × Json)) :
    (fields.filter fun f => names.contains f.1).lookup name = fields.lookup name := by
  induction fields with
  | nil => rfl
  | cons f fields ih =>
    obtain ⟨key, value⟩ := f
    rw [List.filter_cons]
    by_cases hkey : name = key
    · subst hkey
      rw [if_pos (List.contains_iff_mem.mpr hname), List.lookup_cons_self, List.lookup_cons_self]
    · have hne : (name == key) = false := beq_eq_false_iff_ne.mpr hkey
      split <;> simpa only [List.lookup_cons, hne] using ih

theorem find?_of_record? {r : Record} (h : record? names (.object fields) = some r)
    (hname : name ∈ names) : r.find? name = fields.lookup name := by
  rw [record?] at h
  split at h
  · cases h
    exact lookup_filter hname fields
  · contradiction

theorem defaulted_of_missing {α : Type} {r : Record} (h : record? names (.object fields) = some r)
    (hname : name ∈ names) (hmissing : fields.lookup name = none) (value? : Json → Option α)
    (fallback : α) : r.defaulted name value? fallback = some fallback := by
  rw [Record.defaulted, find?_of_record? h hname, hmissing]

theorem record?_cons (hname : name ∈ names) (hmissing : fields.lookup name = none) (value : Json) :
    record? names (.object ((name, value) :: fields)) =
      (record? names (.object fields)).map fun r => { r with fields := (name, value) :: r.fields } := by
  have hkept : ((name, value) :: fields).filter (fun f => names.contains f.1) =
      (name, value) :: fields.filter fun f => names.contains f.1 := by
    rw [List.filter_cons, if_pos (List.contains_iff_mem.mpr hname)]
  have hnot : name ∉ (fields.filter fun f => names.contains f.1).map (·.1) := by
    rwa [← lookup_filter hname, lookup_eq_none_iff] at hmissing
  simp only [record?, hkept, List.map_cons, List.nodup_cons, hnot, not_false_eq_true, true_and]
  split <;> rfl

/-- What is read of a record with a field put in front is what is read without, if so it is where the
field is missing. -/
theorem bind_record?_cons {α : Type} {body : Record → Option α} {value : Json} (hname : name ∈ names)
    (hmissing : fields.lookup name = none)
    (hbody : ∀ r : Record, r.find? name = none →
      body { r with fields := (name, value) :: r.fields } = body r) :
    (record? names (.object ((name, value) :: fields)) >>= body) =
      (record? names (.object fields) >>= body) := by
  rw [record?_cons hname hmissing]
  cases hr : record? names (.object fields) with
  | none => rfl
  | some r => exact hbody r ((find?_of_record? hr hname).trans hmissing)

end Records

namespace Record

theorem find?_nil (positional : Bool) (name : String) : find? ⟨positional, []⟩ name = none :=
  rfl

theorem find?_cons (positional : Bool) (key : String) (value : Json) (fields : List (String × Json))
    (name : String) :
    find? ⟨positional, (key, value) :: fields⟩ name =
      if name = key then some value else find? ⟨positional, fields⟩ name := by
  by_cases h : name = key
  · simp [find?, h]
  · simp [find?, List.lookup_cons, beq_eq_false_iff_ne.mpr h, h]

end Record

end PageGraph.Json
