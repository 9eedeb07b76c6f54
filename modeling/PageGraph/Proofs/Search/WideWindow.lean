import PageGraph.Proofs.Search.Excerpt

namespace PageGraph.Hit

theorem find?_wide_window (kind : MatchKind) (ignoreCase : Bool) (window : UInt64)
    (query text : String) (hlength : (foldCase ignoreCase text).length < UInt64.size) :
    let part := foldCase ignoreCase query
    let whole := foldCase ignoreCase text
    (¬ Meets kind part whole → find? kind ignoreCase window query text = .ok none) ∧
      ∀ place, Meets kind part whole → FirstAt part whole place →
        Word.add place part.length = .ok (place + part.length) ∧
        Word.sub (place + part.length + window.toNat) (place - window.toNat) =
          .ok (place + part.length + window.toNat - (place - window.toNat)) ∧
        (place + part.length + window.toNat < UInt64.size →
          Word.add (place + part.length) window.toNat = .ok (place + part.length + window.toNat) ∧
          ∃ score e, find? kind ignoreCase window query text =
              .ok (some ⟨score, "..." ++ String.ofList e ++ "..."⟩) ∧
            e = whole.extract (place - window.toNat) (place + part.length + window.toNat) ∧
            part <:+: e) ∧
        (UInt64.size ≤ place + part.length + window.toNat →
          Word.add (place + part.length) window.toNat = .error .sumTooLarge ∧
          find? kind ignoreCase window query text = .error .sumTooLarge) := by
  intro part whole
  refine ⟨find?_of_not_meets, fun place hmeets hplace => ?_⟩
  have hend : place + part.length < UInt64.size := Nat.lt_of_le_of_lt hplace.end_le hlength
  have horder : place - window.toNat ≤ place + part.length + window.toNat := by omega
  refine ⟨Word.add_of_lt hend, Word.sub_of_le horder, ?_, ?_⟩
  · intro hfits
    obtain ⟨score, _, hfound⟩ := find?_of_lt hmeets hplace hfits
    refine ⟨Word.add_of_lt hfits, score, _, hfound, rfl, ?_⟩
    exact hplace.infix_extract (Nat.sub_le _ _) (Nat.le_add_right _ _)
  · intro hwide
    exact ⟨Word.add_of_le hwide, find?_of_le hmeets hplace hwide⟩

def widest : UInt64 :=
  18446744073709551615

theorem find?_wide_window_risks :
    find? .contains true widest "Risks" "Key risks ahead" = .error .sumTooLarge ∧
      ∃ score, find? .contains true (widest - 9) "Risks" "Key risks ahead" =
        .ok (some ⟨score, "...key risks ahead..."⟩) := by
  have hpart : foldCase true "Risks" = "risks".toList := by decide +kernel
  have hwhole : foldCase true "Key risks ahead" = "key risks ahead".toList := by decide +kernel
  have hlength : (foldCase true "Key risks ahead").length < UInt64.size := by
    rw [hwhole]
    decide
  have hmeets : Meets .contains "risks".toList "key risks ahead".toList :=
    ⟨by decide, ⟨"key ".toList, " ahead".toList, by decide⟩⟩
  have hfour : FirstAt "risks".toList "key risks ahead".toList 4 :=
    (occurrence?_eq_some_iff _ _ _).mp (by decide)
  have hwide := find?_wide_window .contains true widest "Risks" "Key risks ahead" hlength
  have hless := find?_wide_window .contains true (widest - 9) "Risks" "Key risks ahead" hlength
  simp only [hpart, hwhole] at hwide hless
  obtain ⟨_, _, _, hstopped⟩ := hwide.2 4 hmeets hfour
  obtain ⟨_, _, hshown, _⟩ := hless.2 4 hmeets hfour
  obtain ⟨_, score, e, hfound, rfl, _⟩ := hshown (by decide)
  exact ⟨(hstopped (by decide)).2, score, hfound⟩

theorem end_too_large :
    occurrence? (foldCase true "Risks") (foldCase true "Key risks ahead") = some 4 ∧
      UInt64.size ≤ 4 + (foldCase true "Risks").length + widest.toNat ∧
      find? .contains true widest "Risks" "Key risks ahead" = .error .sumTooLarge := by
  decide +kernel

end PageGraph.Hit
