import PageGraph.Proofs.Search.Occurrence
import PageGraph.Proofs.Search.Rounding

namespace PageGraph

theorem extract_append {before part after : List Char} {first last : Nat}
    (hfirst : first ≤ before.length) (hlast : before.length + part.length ≤ last) :
    (before ++ part ++ after).extract first last =
      before.drop first ++ part ++ after.take (last - (before ++ part).length) := by
  have hshort : first ≤ (before ++ part).length := by
    rw [List.length_append]
    omega
  have hcount : last - first =
      (before.drop first ++ part).length + (last - (before ++ part).length) := by
    simp only [List.length_append, List.length_drop]
    omega
  rw [List.extract_eq_take_drop, List.drop_append_of_le_length hshort,
    List.drop_append_of_le_length hfirst, hcount, List.take_length_add_append]

theorem FirstAt.infix_extract {part text : List Char} {place first last : Nat}
    (h : FirstAt part text place) (hfirst : first ≤ place) (hlast : place + part.length ≤ last) :
    part <:+: text.extract first last := by
  obtain ⟨before, after, rfl, rfl⟩ := h.exists_parts
  rw [extract_append hfirst hlast]
  exact ⟨_, _, rfl⟩

theorem extract_min_length (text : List Char) (first last : Nat) :
    text.extract first (min text.length last) = text.extract first last := by
  rw [List.extract_eq_take_drop, List.extract_eq_take_drop, List.take_eq_take_iff, List.length_drop]
  omega

namespace Hit

def share (kind : MatchKind) (part text : List Char) : ℚ :=
  match kind with
  | .exact => 1
  | .contains => part.length / text.length

theorem exists_ratio {kind : MatchKind} {part text : List Char} (h : Meets kind part text)
    {score : Score} (hscore : score? kind part text = some score) :
    ∃ n d : Nat, score = .ofRatio n d ∧ share kind part text = n / d ∧ 0 < n ∧ n ≤ d ∧
      (n = d ↔ text = part) ∧ (kind = .exact ∨ text.length < 2 ^ 53 → d < 2 ^ 53) := by
  cases kind with
  | exact =>
    have hsame : text = part := h
    rw [score?, if_pos hsame] at hscore
    refine ⟨1, 1, (Option.some.inj hscore).symm, by simp [share], one_pos, le_refl 1, ?_, ?_⟩
    · exact iff_of_true rfl hsame
    · exact fun _ => by decide
  | contains =>
    rw [score?] at hscore
    split at hscore
    · contradiction
    · refine ⟨part.length, text.length, (Option.some.inj hscore).symm, rfl,
        List.length_pos_of_ne_nil h.1, h.2.length_le, ?_, ?_⟩
      · exact ⟨fun hlength => (h.2.eq_of_length hlength).symm, fun hsame => by rw [hsame]⟩
      · exact fun hshort => hshort.resolve_left (by decide)

/-- A text of `2 ^ 53` characters or more has a length that need not be a double. -/
theorem find?_exactness (kind : MatchKind) (ignoreCase : Bool) (window : UInt64)
    (query text : String) :
    let part := foldCase ignoreCase query
    let whole := foldCase ignoreCase text
    (Fits kind ignoreCase window query text →
        ∃ found, find? kind ignoreCase window query text = .ok found) ∧
      ∀ found, find? kind ignoreCase window query text = .ok found →
        (found.isSome = true ↔ Meets kind part whole) ∧
        ∀ hit, found = some hit →
          (0 < share kind part whole ∧ share kind part whole ≤ 1 ∧
            (share kind part whole = 1 ↔ whole = part)) ∧
          (0 < hit.score.value ∧ hit.score.value ≤ 1) ∧
          (kind = .exact ∨ whole.length < 2 ^ 53 →
            hit.score.Rounds (share kind part whole) ∧ (hit.score.value = 1 ↔ whole = part)) ∧
          ∃ place e, FirstAt part whole place ∧
            e = whole.extract (place - window.toNat)
              (min whole.length (place + part.length + window.toNat)) ∧
            hit.snippet = "..." ++ String.ofList e ++ "..." ∧ part <:+: e := by
  intro part whole
  refine ⟨exists_find?_iff.mpr, fun found hfound => ⟨?_, ?_⟩⟩
  · have hhit := exists_hit_iff (exists_find?_iff.mp ⟨found, hfound⟩)
    rw [← hhit, hfound]
    simp [Option.isSome_iff_exists]
  · rintro hit rfl
    obtain ⟨hmeets, hscore, place, hplace, hsnippet⟩ := find?_eq_ok_some hfound
    obtain ⟨n, d, hratio, hshare, hn, hnd, hsame, hshort⟩ := exists_ratio hmeets hscore
    have hn' : (0 : ℚ) < n := by exact_mod_cast hn
    have hd' : (0 : ℚ) < d := by exact_mod_cast hn.trans_le hnd
    rw [hratio, hshare, div_le_one hd', div_eq_one_iff_eq hd'.ne', Nat.cast_inj, Nat.cast_le, hsame]
    refine ⟨⟨div_pos hn' hd', hnd, Iff.rfl⟩, Score.value_ofRatio hn hnd, fun hlength => ?_, place,
      _, hplace, rfl, ?_, ?_⟩
    · have hd := hshort hlength
      have hnormal : d < 2 ^ 1022 := by
        refine hd.trans_le ?_
        apply Nat.pow_le_pow_right <;> decide
      rw [← hsame]
      exact ⟨Score.rounds_ofRatio hn hnd hnormal,
        Score.value_ofRatio_eq_one_iff hn hnd (hd.trans (by decide))⟩
    · rw [hsnippet, extract_min_length]
    · rw [extract_min_length]
      exact hplace.infix_extract (Nat.sub_le _ _) (Nat.le_add_right _ _)

theorem find?_exactness_needle :
    ∃ hit, find? .contains true 3 "NEEDLE" "Ünïcode needle" = .ok (some hit) ∧
      hit.snippet = "...de needle..." ∧ hit.score.Rounds (6 / 14) ∧ hit.score.value ≠ 1 := by
  have hpart : foldCase true "NEEDLE" = "needle".toList := by decide +kernel
  have hwhole : foldCase true "Ünïcode needle" = "ünïcode needle".toList := by decide +kernel
  have hfits : Fits .contains true 3 "NEEDLE" "Ünïcode needle" :=
    fits_of_length (by rw [hwhole]; decide)
  have hexact := find?_exactness .contains true 3 "NEEDLE" "Ünïcode needle"
  simp only [hpart, hwhole] at hexact
  obtain ⟨hreturns, htells⟩ := hexact
  obtain ⟨found, hfound⟩ := hreturns hfits
  obtain ⟨hsome, hhit⟩ := htells found hfound
  have hmeets : Meets .contains "needle".toList "ünïcode needle".toList :=
    ⟨by decide, ⟨"ünïcode ".toList, [], by decide⟩⟩
  obtain ⟨hit, rfl⟩ := Option.isSome_iff_exists.mp (hsome.mpr hmeets)
  obtain ⟨_, _, hvalue, place, e, hplace, rfl, hshown, _⟩ := hhit hit rfl
  obtain ⟨hrounds, hone⟩ := hvalue (.inr (by decide))
  have height : occurrence? "needle".toList "ünïcode needle".toList = some 8 := by decide
  obtain rfl := hplace.unique ((occurrence?_eq_some_iff _ _ _).mp height)
  refine ⟨hit, hfound, hshown.trans (by decide +kernel), ?_, fun h => absurd (hone.mp h) (by decide)⟩
  exact hrounds

end Hit

end PageGraph
