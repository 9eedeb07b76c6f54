import Mathlib.Data.List.Perm.Basic
import PageGraph.Json.Decode
import PageGraph.Proofs.Json.Records
import PageGraph.Proofs.Json.Writing

namespace PageGraph.Json

def isObject : Json → Bool
  | .object _ => true
  | _ => false

inductive Keeps (left : String → Bool) (related : Json → Json → Prop) :
    List (String × Json) → List (String × Json) → Prop where
  | nil : Keeps left related [] []
  | drop {name : String} {value : Json} {fields kept : List (String × Json)}
      (hleft : left name = true) (h : Keeps left related fields kept) :
      Keeps left related ((name, value) :: fields) kept
  | keep {name : String} {value value' : Json} {fields kept : List (String × Json)}
      (hleft : left name = false) (hvalue : related value value')
      (h : Keeps left related fields kept) :
      Keeps left related ((name, value) :: fields) ((name, value') :: kept)

/-- A value is left of another one when some fields of its objects are left out, by their names. The
others may stand in any order. -/
inductive Leaves (left : String → Bool) : Json → Json → Prop where
  | whole {j : Json} (h : j.isObject = false) : Leaves left j j
  | object {fields kept kept' : List (String × Json)} (hkept : Keeps left (Leaves left) fields kept)
      (hperm : kept.Perm kept') : Leaves left (.object fields) (.object kept')

mutual

def without (left : String → Bool) : Json → Json
  | .object fields => .object (withoutFields left fields)
  | j => j

def withoutFields (left : String → Bool) : List (String × Json) → List (String × Json)
  | [] => []
  | (name, value) :: fields =>
    if left name then withoutFields left fields
    else (name, without left value) :: withoutFields left fields

end

variable {left : String → Bool}

mutual

theorem leaves_without : (j : Json) → Leaves left j (without left j)
  | .object fields => .object (keeps_withoutFields fields) (.refl _)
  | .null => .whole rfl
  | .bool _ => .whole rfl
  | .number _ => .whole rfl
  | .string _ => .whole rfl
  | .unpaired => .whole rfl
  | .array _ => .whole rfl

theorem keeps_withoutFields :
    (fields : List (String × Json)) → Keeps left (Leaves left) fields (withoutFields left fields)
  | [] => .nil
  | (name, value) :: fields => by
    rw [withoutFields]
    cases hleft : left name with
    | true => exact .drop hleft (keeps_withoutFields fields)
    | false => exact .keep hleft (leaves_without value) (keeps_withoutFields fields)

end

theorem withoutFields_eq_map (fields : List (String × Json)) :
    withoutFields left fields =
      (fields.filter fun f => !left f.1).map fun f => (f.1, without left f.2) := by
  induction fields with
  | nil => rfl
  | cons f fields ih =>
    rw [withoutFields, ih]
    cases hleft : left f.1 <;> simp [hleft]

theorem Plain.without {j : Json} (h : Plain j) : Plain (without left j) := by
  induction h with
  | null => exact .null
  | bool b => exact .bool b
  | number n => exact .number n
  | string s => exact .string s
  | array hitems _ => exact .array hitems
  | object _ ih =>
    refine .object fun f hf => ?_
    rw [withoutFields_eq_map] at hf
    obtain ⟨whole, hwhole, rfl⟩ := List.mem_map.mp hf
    exact ih whole (List.mem_of_mem_filter hwhole)

section Keeping

variable {related : Json → Json → Prop} {fields kept : List (String × Json)}

theorem Keeps.names (h : Keeps left related fields kept) :
    kept.map (·.1) = (fields.map (·.1)).filter fun name => !left name := by
  induction h with
  | nil => rfl
  | drop hleft _ ih => simpa [hleft] using ih
  | keep hleft _ _ ih => simpa [hleft] using ih

theorem Keeps.exists_mem (h : Keeps left related fields kept) {name : String} {value : Json}
    (hmem : (name, value) ∈ fields) (hname : left name = false) :
    ∃ value', (name, value') ∈ kept ∧ related value value' := by
  induction h with
  | nil => contradiction
  | drop hleft _ ih =>
    rcases List.mem_cons.mp hmem with heq | hmem
    · cases heq
      rw [hleft] at hname
      contradiction
    · exact ih hmem
  | keep _ hvalue _ ih =>
    rcases List.mem_cons.mp hmem with heq | hmem
    · cases heq
      exact ⟨_, List.mem_cons_self, hvalue⟩
    · obtain ⟨value', hkept, hrelated⟩ := ih hmem
      exact ⟨value', List.mem_cons_of_mem _ hkept, hrelated⟩

end Keeping

theorem reads_whole {α : Type} {value : Json} {value? : Json → Option α} {a : α}
    (hwhole : value.isObject = false) (ha : value? value = some a) (value' : Json)
    (h : Leaves left value value') : value? value' = some a := by
  cases h with
  | whole => exact ha
  | object => contradiction

theorem record?_leaves (names : List String) {fields : List (String × Json)} {j : Json}
    (hnames : fields.map (·.1) = names) (hnd : names.Nodup) (h : Leaves left (.object fields) j) :
    ∃ r, record? names j = some r ∧
      ∀ {α : Type} (name : String) (value : Json) (value? : Json → Option α) (fallback a : α),
        (name, value) ∈ fields → (∀ value', Leaves left value value' → value? value' = some a) →
          r.defaulted name value? fallback = some (if left name then fallback else a) := by
  cases h with
  | whole h => contradiction
  | @object _ kept kept' hkept hperm =>
  have hkeys : (kept'.map (·.1)).Perm (names.filter fun name => !left name) := by
    rw [← hnames, ← hkept.names]
    exact (hperm.map _).symm
  have hknown : ∀ f ∈ kept', f.1 ∈ names := fun f hf =>
    List.mem_of_mem_filter (hkeys.subset (List.mem_map_of_mem hf))
  have hnd' : (kept'.map (·.1)).Nodup := hkeys.nodup_iff.mpr (hnd.filter _)
  refine ⟨_, record?_object hknown hnd', fun name value value? fallback a hmem hread => ?_⟩
  rw [Record.defaulted, Record.find?]
  cases hleft : left name with
  | true =>
    have hmissing : name ∉ kept'.map (·.1) := fun hin => by
      have := List.of_mem_filter (hkeys.subset hin)
      simp [hleft] at this
    rw [lookup_eq_none_iff.mpr hmissing]
    rfl
  | false =>
    obtain ⟨value', hvalue', hleaves⟩ := hkept.exists_mem hmem hleft
    rw [lookup_of_mem hnd' (hperm.subset hvalue')]
    exact hread value' hleaves

end PageGraph.Json
