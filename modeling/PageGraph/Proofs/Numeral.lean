import PageGraph.Numeral

namespace PageGraph.Numeral

theorem digits?_eq_some_iff {cs : List Char} {k : Nat} :
    digits? cs = some k ↔
      cs ≠ [] ∧ (∀ c ∈ cs, c.isDigit = true) ∧ Nat.ofDigitChars 10 cs 0 = k := by
  cases cs with
  | nil => simp [digits?]
  | cons c cs =>
    have hfold : (c :: cs).foldl (fun n c => 10 * n + (c.toNat - 48)) 0 =
      Nat.ofDigitChars 10 (c :: cs) 0 := rfl
    rw [digits?, hfold, ← List.all_eq_true]
    · split <;> simp [*]
    · exact List.cons_ne_nil c cs

theorem isDigit_of_mem_toDigits {n : Nat} {d : Char} (hd : d ∈ Nat.toDigits 10 n) :
    d.isDigit = true :=
  Nat.isDigit_of_mem_toDigits (by decide) (by decide) hd

theorem digits?_toDigits (n : Nat) : digits? (Nat.toDigits 10 n) = some n := by
  apply digits?_eq_some_iff.mpr
  refine ⟨Nat.toDigits_ne_nil, fun _ => isDigit_of_mem_toDigits, ?_⟩
  exact Nat.ofDigitChars_toDigits (by decide) (by decide)

theorem toDigits_eq_cons (n : Nat) : ∃ d ds, Nat.toDigits 10 n = d :: ds ∧ d.isDigit = true := by
  obtain ⟨d, ds, hdigits⟩ := List.exists_cons_of_ne_nil (Nat.toDigits_ne_nil (n := n) (b := 10))
  exact ⟨d, ds, hdigits, isDigit_of_mem_toDigits (hdigits ▸ List.mem_cons_self)⟩

theorem eq_zero_of_toDigits {n : Nat} {ds : List Char} (h : Nat.toDigits 10 n = '0' :: ds) :
    n = 0 := by
  induction n using Nat.strongRecOn generalizing ds with
  | ind n ih =>
    by_cases hn : n < 10
    · rw [Nat.toDigits_of_lt_base hn, List.cons.injEq] at h
      have hall : ∀ n < 10, n.digitChar = '0' → n = 0 := by decide
      exact hall n hn h.1
    · rw [Nat.toDigits_of_base_le (by decide) (Nat.le_of_not_lt hn)] at h
      obtain ⟨d, ds', hdigits, -⟩ := toDigits_eq_cons (n / 10)
      rw [hdigits, List.cons_append, List.cons.injEq] at h
      have hless : n / 10 < n := by omega
      have := ih _ hless (h.1 ▸ hdigits)
      omega

def Denotes (s : String) (n : Nat) : Prop :=
  ∃ ds, (s.toList = ds ∨ s.toList = '+' :: ds) ∧ ds ≠ [] ∧ (∀ d ∈ ds, d.isDigit = true) ∧
    Nat.ofDigitChars 10 ds 0 = n

theorem read?_eq_some_iff {bits : Nat} {s : String} {n : Nat} :
    read? bits s = some n ↔ Denotes s n ∧ n < Nat.pow 2 bits := by
  unfold read? Denotes
  split
  · next cs hs =>
    rw [Option.filter_eq_some_iff, digits?_eq_some_iff, hs, decide_eq_true_iff]
    constructor
    · rintro ⟨hdigits, hn⟩
      exact ⟨⟨cs, .inr rfl, hdigits⟩, hn⟩
    · rintro ⟨⟨ds, rfl | heq, hne, hall, hvalue⟩, hn⟩
      -- A plus sign is no digit.
      · have := hall '+' List.mem_cons_self
        contradiction
      · obtain rfl := (List.cons.inj heq).2
        exact ⟨⟨hne, hall, hvalue⟩, hn⟩
  · next hs =>
    rw [Option.filter_eq_some_iff, digits?_eq_some_iff, decide_eq_true_iff]
    constructor
    · rintro ⟨hdigits, hn⟩
      exact ⟨⟨s.toList, .inl rfl, hdigits⟩, hn⟩
    · rintro ⟨⟨ds, rfl | heq, hdigits⟩, hn⟩
      · exact ⟨hdigits, hn⟩
      · exact (hs ds heq).elim

theorem readUInt64?_eq_some_iff {s : String} {n : UInt64} :
    readUInt64? s = some n ↔ Denotes s n.toNat := by
  rw [readUInt64?, Option.map_eq_some_iff]
  constructor
  · rintro ⟨k, hk, rfl⟩
    obtain ⟨hdenotes, hlt⟩ := read?_eq_some_iff.mp hk
    rwa [Nat.toUInt64, UInt64.toNat_ofNat_of_lt' hlt]
  · intro h
    exact ⟨n.toNat, read?_eq_some_iff.mpr ⟨h, n.toNat_lt⟩, UInt64.ofNat_toNat⟩

theorem readUInt64?_toString {n : Nat} (hn : n < UInt64.size) :
    readUInt64? (toString n) = some n.toUInt64 := by
  have hdenotes : Denotes (toString n) n :=
    ⟨Nat.toDigits 10 n, .inl Nat.toList_repr, digits?_eq_some_iff.mp (digits?_toDigits n)⟩
  rw [readUInt64?_eq_some_iff, Nat.toUInt64, UInt64.toNat_ofNat_of_lt' hn]
  exact hdenotes

end PageGraph.Numeral
