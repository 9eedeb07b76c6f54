namespace PageGraph.Text

abbrev CodeRanges := List (Nat × Nat)

def CodeRanges.contains (ranges : CodeRanges) (c : Char) : Bool :=
  ranges.any fun r => r.1 ≤ c.toNat && c.toNat ≤ r.2

theorem CodeRanges.contains_iff (ranges : CodeRanges) (c : Char) :
    ranges.contains c = true ↔ ∃ r ∈ ranges, r.1 ≤ c.toNat ∧ c.toNat ≤ r.2 := by
  simp [CodeRanges.contains]

end PageGraph.Text
