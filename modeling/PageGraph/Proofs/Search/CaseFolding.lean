import PageGraph.Proofs.Search.Occurrence
import PageGraph.Proofs.Text.Lowering

namespace PageGraph.Hit

theorem foldCase_true (s : String) : foldCase true s = Text.lowerBetween [] [] s.toList :=
  Text.toList_lower s

theorem Meets.lowered {kind : MatchKind} {query text : String}
    (h : Meets kind query.toList text.toList) :
    Meets kind (foldCase true query) (foldCase true text) ∨
      kind = .contains ∧ ∀ before after, text.toList = before ++ query.toList ++ after →
        ∃ front back, query.toList = front ++ Text.sigma :: back ∧
          Text.endsWord (front.reverse ++ before.reverse) (back ++ after) ≠
            Text.endsWord front.reverse back := by
  rw [foldCase_true, foldCase_true]
  cases kind with
  | exact =>
    have hsame : text.toList = query.toList := h
    rw [hsame]
    exact .inl rfl
  | contains =>
    refine or_iff_not_imp_right.mpr fun hno => ?_
    have hkept : ∃ before after, text.toList = before ++ query.toList ++ after ∧
        ∀ front back, query.toList = front ++ Text.sigma :: back →
          Text.endsWord (front.reverse ++ before.reverse) (back ++ after) =
            Text.endsWord front.reverse back := by
      by_contra hall
      push Not at hall
      exact hno ⟨rfl, hall⟩
    obtain ⟨before, after, htext, hends⟩ := hkept
    refine ⟨?_, ?_⟩
    · rw [← Text.lowerAfter_eq, Ne, Text.lowerAfter_eq_nil_iff]
      exact h.1
    · rw [htext]
      exact Text.lowerBetween_infix before query.toList after hends

theorem find?_ignoring_case (kind : MatchKind) (window : UInt64) (query text : String)
    (hfits : Fits kind true window query text)
    (h : ∃ hit, find? kind false window query text = .ok (some hit)) :
    (∃ hit, find? kind true window query text = .ok (some hit)) ∨
      kind = .contains ∧ ∀ before after, text.toList = before ++ query.toList ++ after →
        ∃ front back, query.toList = front ++ Text.sigma :: back ∧
          Text.endsWord (front.reverse ++ before.reverse) (back ++ after) ≠
            Text.endsWord front.reverse back := by
  obtain ⟨hit, hhit⟩ := h
  have hmeets : Meets kind query.toList text.toList := (find?_eq_ok_some hhit).1
  rw [exists_hit_iff hfits]
  exact hmeets.lowered

theorem find?_ignoring_case_street :
    Fits .contains true 50 "ΟΔΟΣ" "ΟΔΟΣ ΜΟΥ" ∧
      (∃ hit, find? .contains false 50 "ΟΔΟΣ" "ΟΔΟΣ ΜΟΥ" = .ok (some hit)) ∧
      ∃ hit, find? .contains true 50 "ΟΔΟΣ" "ΟΔΟΣ ΜΟΥ" = .ok (some hit) := by
  have hfits : Fits .contains true 50 "ΟΔΟΣ" "ΟΔΟΣ ΜΟΥ" := fits_of_length (by decide +kernel)
  have hfound : ∃ hit, find? .contains false 50 "ΟΔΟΣ" "ΟΔΟΣ ΜΟΥ" = .ok (some hit) :=
    ⟨⟨.ofRatio 4 8, "...ΟΔΟΣ ΜΟΥ..."⟩, by decide +kernel⟩
  refine ⟨hfits, hfound, ?_⟩
  refine (find?_ignoring_case .contains 50 "ΟΔΟΣ" "ΟΔΟΣ ΜΟΥ" hfits hfound).resolve_right ?_
  rintro ⟨_, hall⟩
  obtain ⟨front, back, hsplit, hends⟩ := hall [] " ΜΟΥ".toList rfl
  have hword : "ΟΔΟΣ".toList = ['Ο', 'Δ', 'Ο'] ++ Text.sigma :: [] := rfl
  rw [hword, List.append_cons_inj_of_notMem (by decide) (by decide)] at hsplit
  obtain ⟨rfl, _, rfl⟩ := hsplit
  exact hends (by decide +kernel)

/-- The sigma ends a word in what is looked for, and stands inside of one in the text. -/
theorem sigma_lost :
    (∃ hit, find? .contains false 50 "ΑΣ" "ΑΣΑ" = .ok (some hit)) ∧
      find? .contains true 50 "ΑΣ" "ΑΣΑ" = .ok none :=
  ⟨⟨⟨.ofRatio 2 3, "...ΑΣΑ..."⟩, by decide +kernel⟩, by decide +kernel⟩

end PageGraph.Hit
