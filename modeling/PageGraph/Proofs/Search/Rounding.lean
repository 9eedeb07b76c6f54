import Mathlib.Algebra.Order.Field.Rat
import Mathlib.Data.Nat.Cast.Order.Field
import Mathlib.Tactic.Linarith
import Mathlib.Tactic.Positivity
import Mathlib.Tactic.Ring
import PageGraph.Search.Score

/-!
The numbers that scores stand for. A score made of two lengths is the double nearest to their ratio,
the even one of two that are equally near, and it is 1 for equal lengths only, as long as the
lengths are doubles themselves.
-/

namespace PageGraph.Score

def unit : Nat :=
  2 ^ 1074

theorem unit_pos : 0 < unit := by
  rw [unit]
  apply Nat.two_pow_pos

theorem unit_eq {e : Nat} (he : e ≤ 1074) : unit = 2 ^ e * 2 ^ (1074 - e) := by
  rw [← Nat.pow_add, Nat.add_sub_cancel' he, unit]

def steps (s : Score) : Nat :=
  (if s.bits / 2 ^ 52 = 0 then s.bits % 2 ^ 52 else 2 ^ 52 + s.bits % 2 ^ 52) *
    2 ^ (s.bits / 2 ^ 52 - 1)

def value (s : Score) : ℚ :=
  s.steps / unit

theorem steps_lt (s : Score) : s.steps < 2 ^ 52 * 2 ^ (s.bits / 2 ^ 52) := by
  have hlow : s.bits % 2 ^ 52 < 2 ^ 52 := Nat.mod_lt _ (by decide)
  rw [steps]
  cases s.bits / 2 ^ 52 with
  | zero => simpa using hlow
  | succ f =>
    have hdouble : 2 ^ 52 * 2 ^ (f + 1) = 2 ^ 53 * 2 ^ f := by ring
    rw [if_neg (Nat.succ_ne_zero f), Nat.add_sub_cancel, hdouble]
    exact Nat.mul_lt_mul_of_pos_right (by omega) (Nat.two_pow_pos f)

theorem le_steps {s : Score} {f : Nat} (hf : s.bits / 2 ^ 52 = f + 1) :
    2 ^ 52 * 2 ^ f ≤ s.steps := by
  rw [steps, hf, if_neg (Nat.succ_ne_zero f), Nat.add_sub_cancel]
  exact Nat.mul_le_mul_right _ (Nat.le_add_right _ _)

theorem steps_lt_steps {s t : Score} (h : s.bits < t.bits) : s.steps < t.steps := by
  have hfield : s.bits / 2 ^ 52 ≤ t.bits / 2 ^ 52 := Nat.div_le_div_right (Nat.le_of_lt h)
  rcases Nat.lt_or_eq_of_le hfield with hlt | heq
  · obtain ⟨f, hf⟩ := Nat.exists_eq_add_of_lt hlt
    calc s.steps < 2 ^ 52 * 2 ^ (s.bits / 2 ^ 52) := steps_lt s
      _ ≤ 2 ^ 52 * 2 ^ (s.bits / 2 ^ 52 + f) :=
        Nat.mul_le_mul_left _ (Nat.pow_le_pow_right (by decide) (Nat.le_add_right _ _))
      _ ≤ t.steps := le_steps hf
  · have hlow : s.bits % 2 ^ 52 < t.bits % 2 ^ 52 := by omega
    rw [steps, steps, heq]
    apply Nat.mul_lt_mul_of_pos_right _ (Nat.two_pow_pos _)
    split <;> omega

theorem value_lt_value_iff (s t : Score) : s.value < t.value ↔ s.bits < t.bits := by
  have hunit : (0 : ℚ) < unit := by exact_mod_cast unit_pos
  rw [value, value, div_lt_div_iff_of_pos_right hunit, Nat.cast_lt]
  refine ⟨fun h => ?_, steps_lt_steps⟩
  rcases Nat.lt_trichotomy s.bits t.bits with hlt | heq | hgt
  · exact hlt
  · exact absurd h (by rw [steps, steps, heq]; exact lt_irrefl _)
  · exact absurd h (steps_lt_steps hgt).not_gt

theorem steps_mk {k m : Nat} (hlow : 2 ^ 52 ≤ m) (hhigh : m ≤ 2 ^ 53) :
    steps ⟨k <<< 52 + m⟩ = m * 2 ^ k := by
  rw [steps, Nat.shiftLeft_eq]
  rcases Nat.lt_or_eq_of_le hhigh with hlt | rfl
  · have hfield : (k * 2 ^ 52 + m) / 2 ^ 52 = k + 1 := by omega
    have hrest : 2 ^ 52 + (k * 2 ^ 52 + m) % 2 ^ 52 = m := by omega
    rw [hfield, if_neg (Nat.succ_ne_zero k), hrest, Nat.add_sub_cancel]
  · have hfield : (k * 2 ^ 52 + 2 ^ 53) / 2 ^ 52 = k + 2 := by omega
    have hrest : (k * 2 ^ 52 + 2 ^ 53) % 2 ^ 52 = 0 := by omega
    rw [hfield, if_neg (by omega), hrest]
    change 2 ^ 52 * 2 ^ (k + 1) = 2 ^ 53 * 2 ^ k
    ring

theorem roundDiv_near (n : Nat) {d : Nat} (hd : 0 < d) :
    2 * |(roundDiv n d : ℤ) * d - n| ≤ d ∧
      (2 * |(roundDiv n d : ℤ) * d - n| = d → Even (roundDiv n d)) := by
  have hn : (n : ℤ) = d * (n / d : ℕ) + (n % d : ℕ) := by exact_mod_cast (Nat.div_add_mod n d).symm
  have hr : n % d < d := Nat.mod_lt n hd
  rw [roundDiv, hn]
  generalize n / d = q at *
  generalize n % d = r at *
  have hdown : |(q : ℤ) * d - (d * q + r)| = r := by
    rw [abs_sub_comm, abs_of_nonneg] <;> linarith
  have hup : |((q + 1 : ℕ) : ℤ) * d - (d * q + r)| = d - r := by
    rw [abs_of_nonneg] <;> push_cast <;> linarith
  split
  · rw [hdown]
    exact ⟨by omega, by omega⟩
  · split
    · rw [hup]
      exact ⟨by omega, by omega⟩
    · rcases Nat.even_or_odd q with heven | hodd
      · rw [Nat.even_iff.mp heven, Nat.add_zero, hdown]
        exact ⟨by omega, fun _ => heven⟩
      · rw [Nat.odd_iff.mp hodd, hup]
        exact ⟨by omega, fun _ => hodd.add_one⟩

theorem scale_spec {n d : Nat} (hn : 0 < n) (hnd : n ≤ d) :
    52 ≤ scale n d ∧ d * 2 ^ 52 ≤ n * 2 ^ scale n d ∧ n * 2 ^ scale n d < d * 2 ^ 53 := by
  have hd : 0 < d := by omega
  have hlog : n.log2 ≤ d.log2 :=
    (Nat.le_log2 (by omega)).mpr ((Nat.log2_self_le (by omega)).trans hnd)
  obtain ⟨k, hk⟩ := Nat.exists_eq_add_of_le hlog
  have hstart : 52 + d.log2 - n.log2 = 52 + k := by omega
  have hnlow : 2 ^ n.log2 ≤ n := Nat.log2_self_le (by omega)
  have hnhigh : n < 2 ^ n.log2 * 2 := Nat.lt_log2_self
  have hdlow : 2 ^ n.log2 * 2 ^ k ≤ d := by
    rw [← Nat.pow_add, ← hk]
    exact Nat.log2_self_le (by omega)
  have hdhigh : d < 2 ^ n.log2 * 2 ^ k * 2 := by
    rw [← Nat.pow_add, ← hk]
    exact Nat.lt_log2_self
  have hlow : d < n * 2 ^ k * 2 := by
    exact hdhigh.trans_le (Nat.mul_le_mul_right 2 (Nat.mul_le_mul_right _ hnlow))
  have hhigh : n * 2 ^ k < d * 2 := by
    calc n * 2 ^ k < 2 ^ n.log2 * 2 * 2 ^ k :=
          Nat.mul_lt_mul_of_pos_right hnhigh (Nat.two_pow_pos k)
      _ = 2 ^ n.log2 * 2 ^ k * 2 := by ring
      _ ≤ d * 2 := Nat.mul_le_mul_right 2 hdlow
  have hfirst : n * 2 ^ (52 + k) = n * 2 ^ k * 2 ^ 52 := by ring
  have hnext : n * 2 ^ (52 + k + 1) = n * 2 ^ k * 2 * 2 ^ 52 := by ring
  simp only [scale, hstart, Nat.shiftLeft_eq]
  split <;> omega

theorem roundDiv_nearest (n : Nat) {d : Nat} (hd : 0 < d) (a : Nat) :
    |(roundDiv n d : ℤ) * d - n| ≤ |(a : ℤ) * d - n| ∧
      (|(a : ℤ) * d - n| = |(roundDiv n d : ℤ) * d - n| →
        a = roundDiv n d ∨ Even (roundDiv n d)) := by
  obtain ⟨hnear, heven⟩ := roundDiv_near n hd
  by_cases ha : a = roundDiv n d
  · rw [ha]
    exact ⟨le_refl _, fun _ => .inl rfl⟩
  · -- Two multiples are at least one divisor apart, of which the nearer one has at most half.
    have hapart : (d : ℤ) ≤ |(a : ℤ) * d - (roundDiv n d : ℤ) * d| := by
      rw [← sub_mul, abs_mul, Nat.abs_cast]
      have hone : 1 ≤ |(a : ℤ) - roundDiv n d| := Int.one_le_abs (by omega)
      nlinarith
    have htri := abs_sub_le ((a : ℤ) * d) n ((roundDiv n d : ℤ) * d)
    rw [abs_sub_comm (n : ℤ)] at htri
    exact ⟨by linarith, fun h => .inr (heven (by linarith))⟩

theorem roundDiv_le {n d a : Nat} (hd : 0 < d) (h : n ≤ d * a) : roundDiv n d ≤ a := by
  by_contra hlt
  have hnear := (roundDiv_near n hd).1
  have hself := le_abs_self ((roundDiv n d : ℤ) * d - n)
  have hmul : (a + 1) * d ≤ roundDiv n d * d := Nat.mul_le_mul_right d (by omega)
  have hmul' : ((a : ℤ) + 1) * d ≤ roundDiv n d * d := by exact_mod_cast hmul
  have h' : (n : ℤ) ≤ d * a := by exact_mod_cast h
  have hd' : (0 : ℤ) < d := by exact_mod_cast hd
  linarith

theorem le_roundDiv {n d a : Nat} (hd : 0 < d) (h : d * a ≤ n) : a ≤ roundDiv n d := by
  by_contra hlt
  have hnear := (roundDiv_near n hd).1
  have hself := neg_abs_le ((roundDiv n d : ℤ) * d - n)
  have hmul : (roundDiv n d + 1) * d ≤ a * d := Nat.mul_le_mul_right d (by omega)
  have hmul' : ((roundDiv n d : ℤ) + 1) * d ≤ a * d := by exact_mod_cast hmul
  have h' : (d : ℤ) * a ≤ n := by exact_mod_cast h
  have hd' : (0 : ℤ) < d := by exact_mod_cast hd
  linarith

def digits (n d : Nat) : Nat :=
  roundDiv (n * 2 ^ scale n d) d

theorem ofRatio_eq (n d : Nat) : ofRatio n d = ⟨(1074 - scale n d) <<< 52 + digits n d⟩ := by
  rw [ofRatio, digits, Nat.shiftLeft_eq n]

theorem digits_bounds {n d : Nat} (hn : 0 < n) (hnd : n ≤ d) :
    2 ^ 52 ≤ digits n d ∧ digits n d ≤ 2 ^ 53 ∧ digits n d ≤ 2 ^ scale n d := by
  obtain ⟨_, hlow, hhigh⟩ := scale_spec hn hnd
  have hd : 0 < d := by omega
  refine ⟨le_roundDiv hd hlow, roundDiv_le hd hhigh.le, roundDiv_le hd ?_⟩
  exact Nat.mul_le_mul_right _ hnd

theorem steps_ofRatio {n d : Nat} (hn : 0 < n) (hnd : n ≤ d) :
    (ofRatio n d).steps = digits n d * 2 ^ (1074 - scale n d) := by
  obtain ⟨hlow, hhigh, _⟩ := digits_bounds hn hnd
  rw [ofRatio_eq, steps_mk hlow hhigh]

theorem steps_cases (s : Score) (k : Nat) :
    (∃ a, s.steps = a * 2 ^ k) ∨ s.steps < 2 ^ 52 * 2 ^ k := by
  rcases Nat.lt_or_ge k (s.bits / 2 ^ 52) with hk | hk
  · obtain ⟨j, hj⟩ := Nat.exists_eq_add_of_lt hk
    left
    rw [steps, hj, Nat.add_sub_cancel, Nat.add_comm k j, Nat.pow_add, ← Nat.mul_assoc]
    exact ⟨_, rfl⟩
  · right
    exact s.steps_lt.trans_le (Nat.mul_le_mul_left _ (Nat.pow_le_pow_right (by decide) hk))

theorem scale_le {n d : Nat} (hd : d ≠ 0) (k : Nat) (h : d < 2 ^ k) : scale n d ≤ 52 + k := by
  have hlog : d.log2 < k := (Nat.log2_lt hd).mpr h
  simp only [scale]
  split <;> omega

/-- A positive double that is nearest to a number, with an even last digit where another one is
equally near. -/
structure Rounds (s : Score) (x : ℚ) : Prop where
  nearest : ∀ t : Score, |s.value - x| ≤ |t.value - x|
  even : ∀ t : Score, |t.value - x| = |s.value - x| → t.value ≠ s.value → Even s.bits

def offset (s : Score) (n d : Nat) : ℤ :=
  |(s.steps : ℤ) * d - n * unit|

theorem abs_value_sub (s : Score) (n : Nat) {d : Nat} (hd : 0 < d) :
    |s.value - n / d| = s.offset n d / (unit * d) := by
  have hd' : (0 : ℚ) < d := by exact_mod_cast hd
  have hunit : (0 : ℚ) < unit := by exact_mod_cast unit_pos
  have hsub : (s.steps : ℚ) / unit - n / d = (s.steps * d - n * unit) / (unit * d) := by
    rw [div_sub_div _ _ hunit.ne' hd'.ne', mul_comm (unit : ℚ) n]
  rw [value, offset, Int.cast_abs, hsub, abs_div, abs_of_pos (mul_pos hunit hd')]
  push_cast
  rfl

theorem offset_of_steps {s : Score} {n d e a : Nat} (he : e ≤ 1074)
    (h : s.steps = a * 2 ^ (1074 - e)) :
    s.offset n d = |(a : ℤ) * d - (n * 2 ^ e : ℕ)| * 2 ^ (1074 - e) := by
  have hunit : (unit : ℤ) = 2 ^ e * 2 ^ (1074 - e) := by exact_mod_cast unit_eq he
  have hpos : (0 : ℤ) ≤ 2 ^ (1074 - e) := by positivity
  rw [offset, h, hunit, ← abs_of_nonneg hpos, ← abs_mul, abs_of_nonneg hpos]
  congr 1
  push_cast
  ring

theorem offset_lt {s : Score} {n d e : Nat} (he : e ≤ 1074) (hd : 0 < d)
    (hlow : d * 2 ^ 52 ≤ n * 2 ^ e) (h : s.steps < 2 ^ 52 * 2 ^ (1074 - e)) :
    |((2 ^ 52 : ℕ) : ℤ) * d - (n * 2 ^ e : ℕ)| * 2 ^ (1074 - e) < s.offset n d := by
  have hunit : (unit : ℤ) = 2 ^ e * 2 ^ (1074 - e) := by exact_mod_cast unit_eq he
  have hpos : (0 : ℤ) < 2 ^ (1074 - e) := by positivity
  have hlow' : ((2 ^ 52 : ℕ) : ℤ) * d ≤ (n * 2 ^ e : ℕ) := by
    rw [mul_comm]
    exact_mod_cast hlow
  have hmul : s.steps * d < 2 ^ 52 * 2 ^ (1074 - e) * d := Nat.mul_lt_mul_of_pos_right h hd
  have hmul' : (s.steps : ℤ) * d < ((2 ^ 52 : ℕ) : ℤ) * 2 ^ (1074 - e) * d := by exact_mod_cast hmul
  rw [offset, hunit, abs_of_nonpos (by linarith)]
  refine lt_of_lt_of_le ?_ (neg_le_abs _)
  push_cast at hmul' ⊢
  linarith

/-- What is not a multiple of the last digit lies below the 53 digits, and so further away than the
least number that has them. -/
theorem offset_ofRatio_le {n d : Nat} (hn : 0 < n) (hnd : n ≤ d) (he : scale n d ≤ 1074)
    (s : Score) : (ofRatio n d).offset n d ≤ s.offset n d ∧
      (s.offset n d = (ofRatio n d).offset n d →
        s.steps = (ofRatio n d).steps ∨ Even (digits n d)) := by
  have hd : 0 < d := by omega
  have hpos : (0 : ℤ) < 2 ^ (1074 - scale n d) := by positivity
  have hdigits := steps_ofRatio hn hnd
  rw [offset_of_steps he hdigits]
  rcases s.steps_cases (1074 - scale n d) with ⟨a, ha⟩ | hsmall
  · obtain ⟨hnear, heven⟩ := roundDiv_nearest (n * 2 ^ scale n d) hd a
    rw [offset_of_steps he ha]
    refine ⟨mul_le_mul_of_nonneg_right hnear hpos.le, fun heq => ?_⟩
    refine (heven (mul_right_cancel₀ hpos.ne' heq)).imp_left fun hsame => ?_
    rw [ha, hdigits, hsame, digits]
  · have hlt := offset_lt he hd (scale_spec hn hnd).2.1 hsmall
    have hnear := (roundDiv_nearest (n * 2 ^ scale n d) hd (2 ^ 52)).1
    have hle := (mul_le_mul_of_nonneg_right hnear hpos.le).trans_lt hlt
    exact ⟨hle.le, fun heq => absurd heq hle.ne'⟩

theorem rounds_ofRatio {n d : Nat} (hn : 0 < n) (hnd : n ≤ d) (hd : d < 2 ^ 1022) :
    (ofRatio n d).Rounds (n / d) := by
  have hpos : 0 < d := by omega
  have he : scale n d ≤ 1074 := (scale_le hpos.ne' 1022 hd).trans (by decide)
  have hunit : (0 : ℚ) < unit * d := by exact_mod_cast Nat.mul_pos unit_pos hpos
  refine ⟨fun t => ?_, fun t hsame hne => ?_⟩
  · rw [abs_value_sub _ n hpos, abs_value_sub _ n hpos, div_le_div_iff_of_pos_right hunit]
    exact_mod_cast (offset_ofRatio_le hn hnd he t).1
  · rw [abs_value_sub _ n hpos, abs_value_sub _ n hpos, div_left_inj' hunit.ne'] at hsame
    rcases (offset_ofRatio_le hn hnd he t).2 (by exact_mod_cast hsame) with hsteps | heven
    · exact absurd (by rw [value, value, hsteps]) hne
    · rw [ofRatio_eq, Nat.shiftLeft_eq]
      exact (Even.mul_left (by decide) _).add heven

theorem steps_ofRatio_le {n d : Nat} (hn : 0 < n) (hnd : n ≤ d) : (ofRatio n d).steps ≤ unit := by
  obtain ⟨_, hhigh, hscale⟩ := digits_bounds hn hnd
  rw [steps_ofRatio hn hnd]
  rcases Nat.le_total (scale n d) 1074 with he | he
  · rw [unit_eq he]
    exact Nat.mul_le_mul_right _ hscale
  · rw [Nat.sub_eq_zero_of_le he, Nat.pow_zero, Nat.mul_one]
    refine hhigh.trans ?_
    apply Nat.pow_le_pow_right <;> decide

theorem value_ofRatio {n d : Nat} (hn : 0 < n) (hnd : n ≤ d) :
    0 < (ofRatio n d).value ∧ (ofRatio n d).value ≤ 1 := by
  have hunit : (0 : ℚ) < unit := by exact_mod_cast unit_pos
  have hlow := (digits_bounds hn hnd).1
  have hpos : 0 < (ofRatio n d).steps := by
    rw [steps_ofRatio hn hnd]
    exact Nat.mul_pos (by omega) (Nat.two_pow_pos _)
  have hle := steps_ofRatio_le hn hnd
  rw [value, div_le_one hunit]
  exact ⟨div_pos (by exact_mod_cast hpos) hunit, by exact_mod_cast hle⟩

theorem digits_eq_iff {n d : Nat} (hn : 0 < n) (hnd : n ≤ d) (hd : d < 2 ^ 54) :
    digits n d = 2 ^ scale n d ↔ n = d := by
  have hpos : 0 < d := by omega
  constructor
  · intro h
    by_contra hne
    obtain ⟨hscale, hlow, _⟩ := scale_spec hn hnd
    have hstrict : 52 ≠ scale n d := by
      intro heq
      rw [← heq] at hlow
      exact absurd (Nat.le_of_mul_le_mul_right hlow (by decide)) (by omega)
    have hbig : 2 ^ 53 ≤ 2 ^ scale n d := Nat.pow_le_pow_right (by decide) (by omega)
    have hnear := (roundDiv_near (n * 2 ^ scale n d) hpos).1
    rw [← digits, h] at hnear
    have hself := le_abs_self (((2 ^ scale n d : ℕ) : ℤ) * d - (n * 2 ^ scale n d : ℕ))
    have hgap : 2 ^ scale n d * (n + 1) ≤ 2 ^ scale n d * d := Nat.mul_le_mul_left _ (by omega)
    have hgap' : ((2 ^ scale n d : ℕ) : ℤ) * (n + 1) ≤ (2 ^ scale n d : ℕ) * d := by
      exact_mod_cast hgap
    push_cast at hnear hself hgap'
    zify at hbig hd
    linarith
  · rintro rfl
    exact Nat.le_antisymm (roundDiv_le hpos (le_refl _)) (le_roundDiv hpos (le_refl _))

theorem value_ofRatio_eq_one_iff {n d : Nat} (hn : 0 < n) (hnd : n ≤ d) (hd : d < 2 ^ 54) :
    (ofRatio n d).value = 1 ↔ n = d := by
  have hunit : (unit : ℚ) ≠ 0 := by exact_mod_cast unit_pos.ne'
  have he : scale n d ≤ 1074 := (scale_le (by omega) 54 hd).trans (by decide)
  rw [← digits_eq_iff hn hnd hd, value, div_eq_one_iff_eq hunit, Nat.cast_inj,
    steps_ofRatio hn hnd, unit_eq he, Nat.mul_left_inj (Nat.two_pow_pos _).ne']

end PageGraph.Score
