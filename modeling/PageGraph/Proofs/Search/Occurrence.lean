import Mathlib.Data.List.Infix
import PageGraph.Proofs.Except
import PageGraph.Search.Hit

namespace PageGraph

structure FirstAt (part text : List Char) (place : Nat) : Prop where
  here : part <+: text.drop place
  earliest : ∀ earlier < place, ¬ part <+: text.drop earlier

theorem firstAt_zero_iff (part text : List Char) : FirstAt part text 0 ↔ part <+: text := by
  constructor
  · intro h
    exact h.here
  · intro h
    exact ⟨h, fun earlier hlt => absurd hlt (Nat.not_lt_zero earlier)⟩

theorem firstAt_succ_iff (part : List Char) (c : Char) (cs : List Char) (place : Nat) :
    FirstAt part (c :: cs) (place + 1) ↔ ¬ part <+: c :: cs ∧ FirstAt part cs place := by
  constructor
  · rintro ⟨hhere, hearliest⟩
    exact ⟨hearliest 0 (Nat.succ_pos place), hhere,
      fun earlier hlt => hearliest (earlier + 1) (Nat.succ_lt_succ hlt)⟩
  · rintro ⟨hnot, hhere, hearliest⟩
    refine ⟨hhere, fun earlier hlt => ?_⟩
    cases earlier with
    | zero => exact hnot
    | succ earlier => exact hearliest earlier (Nat.lt_of_succ_lt_succ hlt)

theorem occurrence?_eq_some_iff (part text : List Char) (place : Nat) :
    occurrence? part text = some place ↔ FirstAt part text place := by
  induction text generalizing place with
  | nil =>
    rw [occurrence?]
    cases place with
    | zero =>
      rw [firstAt_zero_iff, List.prefix_nil]
      cases part <;> simp
    | succ place =>
      have hno : ¬ FirstAt part [] (place + 1) := fun h => h.earliest 0 (Nat.succ_pos place) h.here
      cases part <;> simp [hno]
  | cons c cs ih =>
    rw [occurrence?]
    cases place with
    | zero =>
      rw [firstAt_zero_iff, ← List.isPrefixOf_iff_prefix]
      cases part.isPrefixOf (c :: cs) <;> simp
    | succ place =>
      rw [firstAt_succ_iff, ← ih, ← List.isPrefixOf_iff_prefix]
      cases part.isPrefixOf (c :: cs) <;> simp

theorem isSome_occurrence?_iff (part text : List Char) :
    (occurrence? part text).isSome = true ↔ part <:+: text := by
  induction text with
  | nil =>
    rw [occurrence?, List.infix_nil]
    cases part <;> simp
  | cons c cs ih =>
    rw [occurrence?, List.infix_cons_iff, ← ih, ← List.isPrefixOf_iff_prefix]
    cases part.isPrefixOf (c :: cs) <;> simp

theorem FirstAt.exists_parts {part text : List Char} {place : Nat} (h : FirstAt part text place) :
    ∃ before after, text = before ++ part ++ after ∧ before.length = place := by
  obtain ⟨after, hafter⟩ := h.here
  refine ⟨text.take place, after, ?_, ?_⟩
  · rw [List.append_assoc, hafter, List.take_append_drop]
  · rw [List.length_take, Nat.min_eq_left]
    by_contra hlt
    -- Behind the end there is nothing, so the part is empty and stands in front already.
    have hnil : text.drop place = [] := List.drop_of_length_le (by omega)
    rw [hnil, List.append_eq_nil_iff] at hafter
    refine h.earliest 0 (by omega) ?_
    rw [hafter.1]
    exact List.nil_prefix

theorem FirstAt.end_le {part text : List Char} {place : Nat} (h : FirstAt part text place) :
    place + part.length ≤ text.length := by
  obtain ⟨before, after, rfl, rfl⟩ := h.exists_parts
  simp

theorem FirstAt.unique {part text : List Char} {place place' : Nat} (h : FirstAt part text place)
    (h' : FirstAt part text place') : place = place' :=
  Option.some.inj (((occurrence?_eq_some_iff _ _ _).mpr h).symm.trans
    ((occurrence?_eq_some_iff _ _ _).mpr h'))

namespace Word

theorem add_of_lt {a b : Nat} (h : a + b < UInt64.size) : add a b = .ok (a + b) :=
  if_pos h

theorem add_of_le {a b : Nat} (h : UInt64.size ≤ a + b) : add a b = .error .sumTooLarge :=
  if_neg (Nat.not_lt_of_le h)

theorem sub_of_le {a b : Nat} (h : b ≤ a) : sub a b = .ok (a - b) :=
  if_pos h

end Word

namespace Hit

theorem excerpt_of_lt (text : List Char) {place length : Nat} {window : UInt64}
    (h : place + length + window.toNat < UInt64.size) :
    excerpt text place length window =
      .ok (text.extract (place - window.toNat) (place + length + window.toNat)) := by
  have hstop : place + length < UInt64.size := by omega
  have horder : place - window.toNat ≤ place + length + window.toNat := by omega
  rw [excerpt, Word.add_of_lt hstop]
  simp only [bind, Except.bind, Word.add_of_lt h, Word.sub_of_le horder]
  rw [List.extract_eq_take_drop]
  rfl

theorem excerpt_of_le (text : List Char) {place length : Nat} {window : UInt64}
    (h : UInt64.size ≤ place + length + window.toNat) :
    excerpt text place length window = .error .sumTooLarge := by
  rw [excerpt]
  by_cases hstop : place + length < UInt64.size
  · rw [Word.add_of_lt hstop]
    simp only [bind, Except.bind, Word.add_of_le h]
  · rw [Word.add_of_le (Nat.le_of_not_lt hstop)]
    rfl

def Meets (kind : MatchKind) (part text : List Char) : Prop :=
  match kind with
  | .exact => text = part
  | .contains => part ≠ [] ∧ part <:+: text

theorem Meets.infix {kind : MatchKind} {part text : List Char} (h : Meets kind part text) :
    part <:+: text := by
  cases kind with
  | exact =>
    have hsame : text = part := h
    rw [hsame]
  | contains => exact h.2

theorem isSome_score?_iff (kind : MatchKind) (part text : List Char) :
    (score? kind part text).isSome = true ↔ Meets kind part text := by
  cases kind with
  | exact => simp [score?, Meets]
  | contains =>
    rw [score?, Meets, ← isSome_occurrence?_iff]
    cases occurrence? part text with
    | none => simp
    | some place => cases part <;> simp

theorem locate?_eq_some_iff {kind : MatchKind} {part text : List Char} {score : Score}
    {place : Nat} : locate? kind part text = some (score, place) ↔
      score? kind part text = some score ∧ FirstAt part text place := by
  simp [locate?, Option.bind_eq_some_iff, occurrence?_eq_some_iff]

theorem Meets.exists_located {kind : MatchKind} {part text : List Char} (h : Meets kind part text) :
    ∃ score place, locate? kind part text = some (score, place) := by
  obtain ⟨score, hscore⟩ := Option.isSome_iff_exists.mp ((isSome_score?_iff _ _ _).mpr h)
  obtain ⟨place, hplace⟩ := Option.isSome_iff_exists.mp ((isSome_occurrence?_iff _ _).mpr h.infix)
  exact ⟨score, place, locate?_eq_some_iff.mpr ⟨hscore, (occurrence?_eq_some_iff _ _ _).mp hplace⟩⟩

theorem locate?_eq_none {kind : MatchKind} {part text : List Char} (h : ¬ Meets kind part text) :
    locate? kind part text = none := by
  have hscore : score? kind part text = none := by
    rw [← Option.not_isSome_iff_eq_none, isSome_score?_iff]
    exact h
  rw [locate?, hscore]
  rfl

variable {kind : MatchKind} {ignoreCase : Bool} {window : UInt64} {query text : String}

def Fits (kind : MatchKind) (ignoreCase : Bool) (window : UInt64) (query text : String) : Prop :=
  Meets kind (foldCase ignoreCase query) (foldCase ignoreCase text) →
    ∀ place, FirstAt (foldCase ignoreCase query) (foldCase ignoreCase text) place →
      place + (foldCase ignoreCase query).length + window.toNat < UInt64.size

theorem not_fits_iff : ¬ Fits kind ignoreCase window query text ↔
    Meets kind (foldCase ignoreCase query) (foldCase ignoreCase text) ∧
      ∃ place, FirstAt (foldCase ignoreCase query) (foldCase ignoreCase text) place ∧
        UInt64.size ≤ place + (foldCase ignoreCase query).length + window.toNat := by
  simp only [Fits, not_forall, not_lt, exists_prop]

theorem fits_of_length (h : (foldCase ignoreCase text).length + window.toNat < UInt64.size) :
    Fits kind ignoreCase window query text := by
  intro _ place hplace
  have hend := hplace.end_le
  omega

theorem find?_of_not_meets
    (h : ¬ Meets kind (foldCase ignoreCase query) (foldCase ignoreCase text)) :
    find? kind ignoreCase window query text = .ok none := by
  simp only [find?, locate?_eq_none h]

theorem find?_of_located {score : Score} {place : Nat} (h : locate? kind
      (foldCase ignoreCase query) (foldCase ignoreCase text) = some (score, place)) :
    find? kind ignoreCase window query text =
      (snippetOf (foldCase ignoreCase text) place (foldCase ignoreCase query).length window).map
        fun snippet => some ⟨score, snippet⟩ := by
  simp only [find?, h]

theorem find?_of_le {place : Nat}
    (hmeets : Meets kind (foldCase ignoreCase query) (foldCase ignoreCase text))
    (hplace : FirstAt (foldCase ignoreCase query) (foldCase ignoreCase text) place)
    (hwide : UInt64.size ≤ place + (foldCase ignoreCase query).length + window.toNat) :
    find? kind ignoreCase window query text = .error .sumTooLarge := by
  obtain ⟨score, place', hlocated⟩ := hmeets.exists_located
  obtain rfl := hplace.unique (locate?_eq_some_iff.mp hlocated).2
  rw [find?_of_located hlocated, snippetOf, excerpt_of_le _ hwide]
  rfl

theorem find?_of_lt {place : Nat}
    (hmeets : Meets kind (foldCase ignoreCase query) (foldCase ignoreCase text))
    (hplace : FirstAt (foldCase ignoreCase query) (foldCase ignoreCase text) place)
    (hfits : place + (foldCase ignoreCase query).length + window.toNat < UInt64.size) :
    ∃ score, score? kind (foldCase ignoreCase query) (foldCase ignoreCase text) = some score ∧
      find? kind ignoreCase window query text = .ok (some ⟨score,
        "..." ++ String.ofList ((foldCase ignoreCase text).extract (place - window.toNat)
          (place + (foldCase ignoreCase query).length + window.toNat)) ++ "..."⟩) := by
  obtain ⟨score, place', hlocated⟩ := hmeets.exists_located
  obtain ⟨hscore, hplace'⟩ := locate?_eq_some_iff.mp hlocated
  obtain rfl := hplace.unique hplace'
  refine ⟨score, hscore, ?_⟩
  rw [find?_of_located hlocated, snippetOf, excerpt_of_lt _ hfits]
  rfl

theorem exists_find?_iff :
    (∃ found, find? kind ignoreCase window query text = .ok found) ↔
      Fits kind ignoreCase window query text := by
  constructor
  · rintro ⟨found, hfound⟩ hmeets place hplace
    by_contra hwide
    rw [find?_of_le hmeets hplace (Nat.le_of_not_lt hwide)] at hfound
    contradiction
  · intro hfits
    by_cases hmeets : Meets kind (foldCase ignoreCase query) (foldCase ignoreCase text)
    · obtain ⟨score, place, hlocated⟩ := hmeets.exists_located
      have hplace := (locate?_eq_some_iff.mp hlocated).2
      obtain ⟨_, _, hfound⟩ := find?_of_lt hmeets hplace (hfits hmeets place hplace)
      exact ⟨_, hfound⟩
    · exact ⟨none, find?_of_not_meets hmeets⟩

theorem find?_eq_ok_some {hit : Hit}
    (h : find? kind ignoreCase window query text = .ok (some hit)) :
    Meets kind (foldCase ignoreCase query) (foldCase ignoreCase text) ∧
      score? kind (foldCase ignoreCase query) (foldCase ignoreCase text) = some hit.score ∧
      ∃ place, FirstAt (foldCase ignoreCase query) (foldCase ignoreCase text) place ∧
        hit.snippet = "..." ++ String.ofList ((foldCase ignoreCase text).extract
          (place - window.toNat)
          (place + (foldCase ignoreCase query).length + window.toNat)) ++ "..." := by
  have hmeets : Meets kind (foldCase ignoreCase query) (foldCase ignoreCase text) := by
    by_contra hno
    rw [find?_of_not_meets hno] at h
    cases h
  obtain ⟨score, place, hlocated⟩ := hmeets.exists_located
  have hplace := (locate?_eq_some_iff.mp hlocated).2
  have hfits := exists_find?_iff.mp ⟨_, h⟩ hmeets place hplace
  obtain ⟨score', hscore, hfound⟩ := find?_of_lt hmeets hplace hfits
  cases h.symm.trans hfound
  exact ⟨hmeets, hscore, place, hplace, rfl⟩

theorem exists_hit_iff (hfits : Fits kind ignoreCase window query text) :
    (∃ hit, find? kind ignoreCase window query text = .ok (some hit)) ↔
      Meets kind (foldCase ignoreCase query) (foldCase ignoreCase text) := by
  constructor
  · rintro ⟨hit, hfound⟩
    exact (find?_eq_ok_some hfound).1
  · intro hmeets
    obtain ⟨score, place, hlocated⟩ := hmeets.exists_located
    have hplace := (locate?_eq_some_iff.mp hlocated).2
    obtain ⟨_, _, hfound⟩ := find?_of_lt hmeets hplace (hfits hmeets place hplace)
    exact ⟨_, hfound⟩

theorem find?_eq_error_iff {f : Fault} :
    find? kind ignoreCase window query text = .error f ↔
      f = .sumTooLarge ∧ ¬ Fits kind ignoreCase window query text := by
  constructor
  · intro h
    have hnot : ¬ Fits kind ignoreCase window query text := by
      rw [← exists_find?_iff]
      rintro ⟨found, hfound⟩
      rw [hfound] at h
      contradiction
    obtain ⟨hmeets, place, hplace, hwide⟩ := not_fits_iff.mp hnot
    rw [find?_of_le hmeets hplace hwide] at h
    exact ⟨(Except.error.inj h).symm, hnot⟩
  · rintro ⟨rfl, hnot⟩
    obtain ⟨hmeets, place, hplace, hwide⟩ := not_fits_iff.mp hnot
    exact find?_of_le hmeets hplace hwide

end Hit

end PageGraph
