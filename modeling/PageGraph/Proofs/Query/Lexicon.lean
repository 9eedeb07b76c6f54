import Mathlib.Computability.Language
import Mathlib.Data.List.TakeWhile
import PageGraph.Query.Token

/-!
The lexemes of a query as languages:

    blanks   \s+
    strings  "(?:[^"\\]|\\.)*"|'(?:[^'\\]|\\.)*'
    numbers  \d+(?:\.\d+)?(?:[eE][+-]?\d+)?
    names    [A-Za-z_][A-Za-z0-9_]*
    signs    \.\.|==|<>|<=|>=|[()\[\]{}:,.|*<>=\-]

At the head of a text that is read, the longest prefix that is in one of them is the lexeme.
-/

namespace PageGraph.Query

open Text Computability

def single (p : Char → Bool) : Language Char :=
  {cs | ∃ c, p c = true ∧ cs = [c]}

def optional (l : Language Char) : Language Char :=
  1 + l

def numeral : Language Char :=
  single isDigit * (single isDigit)∗

def fraction : Language Char :=
  single (· = '.') * numeral

def exponent : Language Char :=
  single (fun c => c = 'e' || c = 'E') * optional (single fun c => c = '+' || c = '-') * numeral

def quotable (quote : Char) : Language Char :=
  single (fun c => c ≠ quote && c ≠ '\\') + single (· = '\\') * single (· ≠ '\n')

def quoted (quote : Char) : Language Char :=
  single (· = quote) * (quotable quote)∗ * single (· = quote)

def digraphs : List (List Char) :=
  [['.', '.'], ['=', '='], ['<', '>'], ['<', '='], ['>', '=']]

def oneOf (words : List (List Char)) : Language Char :=
  {cs | cs ∈ words}

def lexicon : Option TokenKind → Language Char
  | none => single isBlank * (single isBlank)∗
  | some .str => quoted '"' + quoted '\''
  | some .number => numeral * optional fraction * optional exponent
  | some .ident => single isIdentStart * (single isIdentRest)∗
  | some .punct => oneOf digraphs + single isPunctStart

section Languages

variable {p : Char → Bool} {l : Language Char} {cs : List Char}

theorem mem_single_mul :
    cs ∈ single p * l ↔ ∃ c rest, p c = true ∧ rest ∈ l ∧ cs = c :: rest := by
  rw [Language.mem_mul]
  constructor
  · rintro ⟨_, ⟨c, hc, rfl⟩, rest, hrest, rfl⟩
    exact ⟨c, rest, hc, hrest, rfl⟩
  · rintro ⟨c, rest, hc, hrest, rfl⟩
    exact ⟨[c], ⟨c, hc, rfl⟩, rest, hrest, rfl⟩

theorem mem_kstar_single : cs ∈ (single p)∗ ↔ ∀ c ∈ cs, p c = true := by
  rw [Language.mem_kstar]
  constructor
  · rintro ⟨words, rfl, hwords⟩ c hc
    obtain ⟨word, hword, hc⟩ := List.mem_flatten.mp hc
    obtain ⟨d, hd, rfl⟩ := hwords word hword
    rw [List.mem_singleton.mp hc]
    exact hd
  · intro h
    refine ⟨cs.map fun c => [c], by rw [← List.flatMap_def, List.flatMap_singleton'], ?_⟩
    intro word hword
    obtain ⟨c, hc, rfl⟩ := List.mem_map.mp hword
    exact ⟨c, h c hc, rfl⟩

theorem mem_optional : cs ∈ optional l ↔ cs = [] ∨ cs ∈ l :=
  Language.mem_add 1 l cs

theorem mem_numeral : cs ∈ numeral ↔ cs ≠ [] ∧ ∀ c ∈ cs, isDigit c = true := by
  rw [numeral, mem_single_mul]
  constructor
  · rintro ⟨c, rest, hc, hrest, rfl⟩
    refine ⟨List.cons_ne_nil c rest, ?_⟩
    exact List.forall_mem_cons.mpr ⟨hc, mem_kstar_single.mp hrest⟩
  · rintro ⟨hne, hall⟩
    obtain ⟨c, rest, rfl⟩ := List.exists_cons_of_ne_nil hne
    obtain ⟨hc, hrest⟩ := List.forall_mem_cons.mp hall
    exact ⟨c, rest, hc, mem_kstar_single.mpr hrest, rfl⟩

def Within (p : Char → Prop) (l : Language Char) : Prop :=
  ∀ cs ∈ l, ∀ c ∈ cs, p c

variable {q : Char → Prop} {m : Language Char}

theorem within_single (h : ∀ c, p c = true → q c) : Within q (single p) := by
  rintro _ ⟨c, hc, rfl⟩ d hd
  rw [List.mem_singleton.mp hd]
  exact h c hc

theorem within_kstar_single (h : ∀ c, p c = true → q c) : Within q (single p)∗ := by
  intro cs hcs c hc
  exact h c (mem_kstar_single.mp hcs c hc)

theorem Within.mul (hl : Within q l) (hm : Within q m) : Within q (l * m) := by
  intro cs hcs c hc
  obtain ⟨as, has, bs, hbs, rfl⟩ := Language.mem_mul.mp hcs
  rcases List.mem_append.mp hc with hc | hc
  · exact hl as has c hc
  · exact hm bs hbs c hc

theorem Within.optional (hl : Within q l) : Within q (optional l) := by
  intro cs hcs c hc
  rcases mem_optional.mp hcs with rfl | hcs
  · contradiction
  · exact hl cs hcs c hc

theorem within_numeral (h : ∀ c, isDigit c = true → q c) : Within q numeral :=
  (within_single h).mul (within_kstar_single h)

end Languages

/-- `f` tells how much of a text at most is a word of the language. -/
structure Greedy (l : Language Char) (f : List Char → Nat) : Prop where
  length_le : ∀ cs, f cs ≤ cs.length
  take_mem : ∀ cs : List Char, cs.take (f cs) ∈ l
  le : ∀ cs ∈ l, ∀ rest, cs.length ≤ f (cs ++ rest)

section Greedy

variable {l m : Language Char} {f g : List Char → Nat}

theorem Greedy.eq_length {p : Char → Prop} (hf : Greedy l f) (hl : Within p l) {cs : List Char}
    (hcs : cs ∈ l) {c : Char} (hc : ¬ p c) (rest : List Char) :
    f (cs ++ c :: rest) = cs.length := by
  apply Nat.le_antisymm
  · by_contra hlong
    apply hc
    apply hl _ (hf.take_mem (cs ++ c :: rest))
    rw [List.take_append, List.mem_append]
    right
    obtain ⟨k, hk⟩ := Nat.exists_eq_add_of_lt (Nat.lt_of_not_le hlong)
    rw [hk, show cs.length + k + 1 - cs.length = k + 1 by omega, List.take_succ_cons]
    exact List.mem_cons_self
  · exact hf.le cs hcs (c :: rest)

theorem Greedy.mul {p : Char → Prop} (hf : Greedy l f) (hg : Greedy m g) (hl : Within p l)
    (hm : ∀ c cs, c :: cs ∈ m → ¬ p c) : Greedy (l * m) fun cs => f cs + g (cs.drop (f cs)) := by
  constructor
  · intro cs
    have hfirst := hf.length_le cs
    have hsecond := hg.length_le (cs.drop (f cs))
    rw [List.length_drop] at hsecond
    omega
  · intro cs
    rw [List.take_add]
    exact Language.append_mem_mul (hf.take_mem cs) (hg.take_mem _)
  · intro cs hcs rest
    obtain ⟨as, has, bs, hbs, rfl⟩ := Language.mem_mul.mp hcs
    cases bs with
    | nil =>
      have hle := hf.le as has rest
      rw [List.append_nil]
      omega
    | cons b bs =>
      have heq := hf.eq_length hl has (hm b bs hbs) (bs ++ rest)
      have hle := hg.le (b :: bs) hbs rest
      rw [List.append_assoc, List.cons_append, heq, List.drop_left]
      rw [List.cons_append] at hle
      rw [List.length_append]
      omega

theorem greedy_kstar (p : Char → Bool) :
    Greedy (single p)∗ fun cs => (cs.takeWhile p).length := by
  constructor
  · intro cs
    exact (List.takeWhile_sublist p).length_le
  · intro cs
    rw [← List.prefix_iff_eq_take.mp (List.takeWhile_prefix p), mem_kstar_single]
    intro c hc
    exact List.mem_takeWhile_imp hc
  · intro cs hcs rest
    rw [List.takeWhile_append_of_pos (mem_kstar_single.mp hcs), List.length_append]
    exact Nat.le_add_right _ _

end Greedy

theorem greedy_digits : Greedy (single isDigit)∗ digitRun :=
  greedy_kstar isDigit

theorem take_digitRun_mem {cs : List Char} (h : digitRun cs ≠ 0) :
    cs.take (digitRun cs) ∈ numeral := by
  refine mem_numeral.mpr ⟨?_, mem_kstar_single.mp (greedy_digits.take_mem cs)⟩
  rw [← List.length_pos_iff, List.length_take, Nat.min_eq_left (greedy_digits.length_le cs)]
  omega

theorem length_le_digitRun {cs : List Char} (h : cs ∈ numeral) (rest : List Char) :
    0 < cs.length ∧ cs.length ≤ digitRun (cs ++ rest) := by
  obtain ⟨hne, hall⟩ := mem_numeral.mp h
  exact ⟨List.length_pos_iff.mpr hne, greedy_digits.le cs (mem_kstar_single.mpr hall) rest⟩

theorem greedy_fraction : Greedy (optional fraction) fractionLength := by
  constructor
  · intro cs
    unfold fractionLength
    split
    · next cs =>
      have := greedy_digits.length_le cs
      rw [List.length_cons]
      split <;> omega
    · exact Nat.zero_le _
  · intro cs
    rw [mem_optional]
    unfold fractionLength
    split
    · next cs =>
      split
      · exact .inl rfl
      · next hrun =>
        right
        rw [Nat.add_comm, List.take_succ_cons, fraction, mem_single_mul]
        exact ⟨'.', _, rfl, take_digitRun_mem hrun, rfl⟩
    · exact .inl rfl
  · intro cs hcs rest
    rcases mem_optional.mp hcs with rfl | hcs
    · exact Nat.zero_le _
    · obtain ⟨c, ds, hc, hds, rfl⟩ := mem_single_mul.mp hcs
      obtain rfl : c = '.' := of_decide_eq_true hc
      obtain ⟨hpos, hle⟩ := length_le_digitRun hds rest
      rw [List.cons_append, fractionLength, if_neg (by omega), List.length_cons]
      omega

theorem greedy_exponent : Greedy (optional exponent) exponentLength := by
  constructor
  · intro cs
    rcases cs with _ | ⟨e, _ | ⟨s, cs⟩⟩
    · exact Nat.zero_le _
    · exact Nat.zero_le _
    · have hshort := greedy_digits.length_le cs
      have hlong := greedy_digits.length_le (s :: cs)
      simp only [exponentLength, List.length_cons] at hlong ⊢
      split
      · split
        · split <;> omega
        · split <;> omega
      · omega
  · intro cs
    rcases cs with _ | ⟨e, _ | ⟨s, cs⟩⟩
    · exact mem_optional.mpr (.inl rfl)
    · exact mem_optional.mpr (.inl rfl)
    · rw [mem_optional, exponent, mul_assoc, mem_single_mul, exponentLength]
      split
      · next he =>
        split
        · next hs =>
          split
          · exact .inl rfl
          · next hrun =>
            have hsign : [s] ∈ optional (single fun c => c = '+' || c = '-') :=
              mem_optional.mpr (.inr ⟨s, hs, rfl⟩)
            right
            rw [Nat.add_comm, List.take_succ_cons, List.take_succ_cons]
            exact ⟨e, _, he, Language.append_mem_mul hsign (take_digitRun_mem hrun), rfl⟩
        · split
          · exact .inl rfl
          · next hrun =>
            have hnone : [] ∈ optional (single fun c => c = '+' || c = '-') :=
              mem_optional.mpr (.inl rfl)
            right
            rw [Nat.add_comm, List.take_succ_cons]
            exact ⟨e, _, he, Language.append_mem_mul hnone (take_digitRun_mem hrun), rfl⟩
      · exact .inl rfl
  · intro cs hcs rest
    rcases mem_optional.mp hcs with rfl | hcs
    · exact Nat.zero_le _
    · rw [exponent, mul_assoc] at hcs
      obtain ⟨e, _, he, htail, rfl⟩ := mem_single_mul.mp hcs
      obtain ⟨sign, hsign, digits, hdigits, rfl⟩ := Language.mem_mul.mp htail
      rcases mem_optional.mp hsign with rfl | ⟨s, hs, rfl⟩
      · obtain ⟨d, ds, hd, -, rfl⟩ := mem_single_mul.mp hdigits
        -- The first digit is not taken for a sign.
        have hs : ¬ (d = '+' || d = '-') = true := by
          rw [Bool.or_eq_true, decide_eq_true_eq, decide_eq_true_eq]
          rintro (rfl | rfl) <;> contradiction
        obtain ⟨hpos, hle⟩ := length_le_digitRun hdigits rest
        simp only [List.nil_append, List.cons_append, List.length_cons] at hpos hle ⊢
        rw [exponentLength, if_pos he, if_neg hs, if_neg (by omega)]
        omega
      · obtain ⟨hpos, hle⟩ := length_le_digitRun hdigits rest
        simp only [List.cons_append, List.nil_append, List.length_cons]
        rw [exponentLength, if_pos he, if_pos hs, if_neg (by omega)]
        omega

theorem within_fraction : Within (fun c => isDigit c = true ∨ c = '.') fraction := by
  apply Within.mul
  · exact within_single fun c hc => .inr (of_decide_eq_true hc)
  · exact within_numeral fun c hc => .inl hc

theorem greedy_number :
    Greedy ((single isDigit)∗ * optional fraction * optional exponent) numberLength := by
  have hdigits : Within (fun c => isDigit c = true) (single isDigit)∗ :=
    within_kstar_single fun _ hc => hc
  have hwhole : Within (fun c => isDigit c = true ∨ c = '.')
      ((single isDigit)∗ * optional fraction) :=
    (within_kstar_single fun _ hc => .inl hc).mul within_fraction.optional
  refine (greedy_digits.mul greedy_fraction hdigits ?_).mul greedy_exponent hwhole ?_
  · intro c cs hcs
    rcases mem_optional.mp hcs with hcs | hcs
    · contradiction
    · obtain ⟨_, _, hpoint, -, heq⟩ := mem_single_mul.mp hcs
      cases heq
      rw [of_decide_eq_true hpoint]
      decide
  · intro c cs hcs
    rcases mem_optional.mp hcs with hcs | hcs
    · contradiction
    · rw [exponent, mul_assoc] at hcs
      obtain ⟨_, _, he, -, heq⟩ := mem_single_mul.mp hcs
      cases heq
      rw [Bool.or_eq_true, decide_eq_true_eq, decide_eq_true_eq] at he
      rcases he with rfl | rfl <;> decide

theorem mem_quoted {quote : Char} {cs : List Char} :
    cs ∈ quoted quote ↔ ∃ body ∈ (quotable quote)∗, cs = quote :: (body ++ [quote]) := by
  rw [quoted, mul_assoc, mem_single_mul]
  constructor
  · rintro ⟨c, rest, hc, hrest, rfl⟩
    obtain ⟨body, hbody, _, ⟨d, hd, rfl⟩, rfl⟩ := Language.mem_mul.mp hrest
    rw [of_decide_eq_true hc, of_decide_eq_true hd]
    exact ⟨body, hbody, rfl⟩
  · rintro ⟨body, hbody, rfl⟩
    have hquote : [quote] ∈ single (· = quote) := ⟨quote, decide_eq_true rfl, rfl⟩
    exact ⟨quote, _, decide_eq_true rfl, Language.append_mem_mul hbody hquote, rfl⟩

theorem bodyLength?_of_mem {quote : Char} (hquote : quote ≠ '\\') {body : List Char}
    (hbody : body ∈ (quotable quote)∗) (rest : List Char) :
    bodyLength? quote (body ++ quote :: rest) = some (body.length + 1) := by
  obtain ⟨words, rfl, hwords⟩ := Language.mem_kstar.mp hbody
  clear hbody
  induction words with
  | nil =>
    rw [List.flatten_nil, List.nil_append, bodyLength?, if_pos rfl]
    · rfl
    · simp [hquote]
  | cons word words ih =>
    obtain ⟨hword, hwords⟩ := List.forall_mem_cons.mp hwords
    have hrest := ih hwords
    rw [List.flatten_cons, List.append_assoc]
    rcases (Language.mem_add _ _ _).mp hword with ⟨c, hc, rfl⟩ | hword
    · simp only [ne_eq, decide_not, Bool.and_eq_true, Bool.not_eq_true',
        decide_eq_false_iff_not] at hc
      rw [List.singleton_append, bodyLength?, if_neg hc.1, if_neg hc.2, hrest]
      · simp [Nat.add_comm]
      · simp [hc.2]
    · obtain ⟨back, _, hback, ⟨c, hc, rfl⟩, rfl⟩ := mem_single_mul.mp hword
      rw [of_decide_eq_true hback]
      rw [List.cons_append, List.singleton_append, bodyLength?, if_neg (of_decide_eq_true hc), hrest]
      simp [Nat.add_comm, Nat.add_left_comm]

theorem mem_of_bodyLength? {quote : Char} {cs : List Char} {n : Nat}
    (h : bodyLength? quote cs = some n) :
    ∃ body rest, body ∈ (quotable quote)∗ ∧ cs = body ++ quote :: rest ∧ n = body.length + 1 := by
  have hcons : ∀ word ∈ quotable quote, ∀ body ∈ (quotable quote)∗,
      word ++ body ∈ (quotable quote)∗ := by
    intro word hword body hbody
    rw [← Language.one_add_self_mul_kstar_eq_kstar, Language.mem_add]
    exact .inr (Language.append_mem_mul hword hbody)
  induction cs using bodyLength?.induct quote generalizing n with
  | case1 => contradiction
  | case2 cs => simp [bodyLength?] at h
  | case3 c cs hc ih =>
    rw [bodyLength?, if_neg hc] at h
    obtain ⟨m, hm, rfl⟩ := Option.map_eq_some_iff.mp h
    obtain ⟨body, rest, hbody, rfl, rfl⟩ := ih hm
    refine ⟨'\\' :: c :: body, rest, hcons ['\\', c] ?_ body hbody, rfl, rfl⟩
    refine (Language.mem_add _ _ _).mpr (.inr ?_)
    exact mem_single_mul.mpr ⟨'\\', [c], rfl, ⟨c, decide_eq_true hc, rfl⟩, rfl⟩
  | case4 cs hquote =>
    rw [bodyLength?, if_pos rfl, Option.some.injEq] at h
    · exact ⟨[], cs, Language.nil_mem_kstar _, rfl, h.symm⟩
    · exact hquote
  | case5 cs hlast hne =>
    rw [bodyLength?, if_neg hne, if_pos rfl] at h
    · contradiction
    · exact hlast
  | case6 c cs hsingle hne hback ih =>
    rw [bodyLength?, if_neg hne, if_neg hback] at h
    · obtain ⟨m, hm, rfl⟩ := Option.map_eq_some_iff.mp h
      obtain ⟨body, rest, hbody, rfl, rfl⟩ := ih hm
      refine ⟨c :: body, rest, hcons [c] ?_ body hbody, rfl, rfl⟩
      exact (Language.mem_add _ _ _).mpr (.inl ⟨c, by simp [hne, hback], rfl⟩)
    · exact hsingle

theorem Greedy.single_mul {p : Char → Bool} {l : Language Char} {f : List Char → Nat}
    (hf : Greedy l f) {c : Char} (hc : p c = true) (cs : List Char) :
    1 + f cs ≤ (c :: cs).length ∧ (c :: cs).take (1 + f cs) ∈ single p * l := by
  rw [Nat.add_comm, List.take_succ_cons, List.length_cons, mem_single_mul]
  exact ⟨Nat.add_le_add_right (hf.length_le cs) 1, c, _, hc, hf.take_mem cs, rfl⟩

theorem Greedy.le_of_mem_single_mul {p : Char → Bool} {l : Language Char} {f : List Char → Nat}
    (hf : Greedy l f) {cs : List Char} (hcs : cs ∈ single p * l) (rest : List Char) :
    ∃ c ds, cs ++ rest = c :: ds ∧ p c = true ∧ cs.length ≤ 1 + f ds := by
  obtain ⟨c, ds, hc, hds, rfl⟩ := mem_single_mul.mp hcs
  have := hf.le ds hds rest
  refine ⟨c, ds ++ rest, rfl, hc, ?_⟩
  rw [List.length_cons]
  omega

theorem lexicon_number : lexicon (some .number) =
    single isDigit * ((single isDigit)∗ * optional fraction * optional exponent) := by
  simp only [lexicon, numeral, mul_assoc]

theorem numberLength_cons {c : Char} (hc : isDigit c = true) (cs : List Char) :
    numberLength (c :: cs) = 1 + numberLength cs := by
  have hrun : digitRun (c :: cs) = digitRun cs + 1 := by
    rw [digitRun, List.takeWhile_cons_of_pos hc, List.length_cons, digitRun]
  have hsum : digitRun cs + 1 + fractionLength (cs.drop (digitRun cs)) =
      digitRun cs + fractionLength (cs.drop (digitRun cs)) + 1 := Nat.add_right_comm _ _ _
  simp only [numberLength, hrun, List.drop_succ_cons, hsum]
  omega

theorem punctLength_sound {c : Char} (hc : isPunctStart c = true) (cs : List Char) :
    punctLength (c :: cs) ≤ (c :: cs).length ∧
      (c :: cs).take (punctLength (c :: cs)) ∈ lexicon (some .punct) := by
  have htwo (d e : Char) (rest : List Char) (h : [d, e] ∈ digraphs) :
      2 ≤ (d :: e :: rest).length ∧ (d :: e :: rest).take 2 ∈ lexicon (some .punct) := by
    exact ⟨by simp, (Language.mem_add _ _ _).mpr (.inl h)⟩
  unfold punctLength
  split
  · next heq => exact heq ▸ htwo _ _ _ (by decide)
  · next heq => exact heq ▸ htwo _ _ _ (by decide)
  · next heq => exact heq ▸ htwo _ _ _ (by decide)
  · next heq => exact heq ▸ htwo _ _ _ (by decide)
  · next heq => exact heq ▸ htwo _ _ _ (by decide)
  · exact ⟨by simp, (Language.mem_add _ _ _).mpr (.inr ⟨c, hc, rfl⟩)⟩

theorem le_punctLength {cs : List Char} (hcs : cs ∈ lexicon (some .punct)) (rest : List Char) :
    ∃ c ds, cs ++ rest = c :: ds ∧ isPunctStart c = true ∧ cs.length ≤ punctLength (c :: ds) := by
  rcases (Language.mem_add _ _ _).mp hcs with hcs | ⟨c, hc, rfl⟩
  · have hcs : cs ∈ digraphs := hcs
    simp only [digraphs, List.mem_cons, List.not_mem_nil, or_false] at hcs
    rcases hcs with rfl | rfl | rfl | rfl | rfl <;>
      exact ⟨_, _, rfl, by decide, Nat.le_refl 2⟩
  · exact ⟨c, rest, rfl, hc, punctLength_pos _⟩

theorem contains_eq_false {r s : CodeRanges} (h : ∀ a ∈ r, ∀ b ∈ s, a.2 < b.1 ∨ b.2 < a.1) {c : Char}
    (hc : r.contains c = true) : s.contains c = false := by
  obtain ⟨a, ha, hlow, hhigh⟩ := (CodeRanges.contains_iff r c).mp hc
  rw [← Bool.not_eq_true, CodeRanges.contains_iff]
  rintro ⟨b, hb, hlow', hhigh'⟩
  have := h a ha b hb
  omega

theorem isBlank_of_isDigit {c : Char} (hc : isDigit c = true) : isBlank c = false :=
  contains_eq_false (by decide +kernel) hc

def letterRanges : CodeRanges :=
  [(0x41, 0x5A), (0x5F, 0x5F), (0x61, 0x7A)]

theorem contains_letterRanges {c : Char} (hc : isIdentStart c = true) :
    letterRanges.contains c = true := by
  have hletter : (c.isUpper || c.isLower || c = '_') = true := hc
  rw [Bool.or_eq_true, Bool.or_eq_true] at hletter
  rw [CodeRanges.contains_iff]
  rcases hletter with (hupper | hlower) | hscore
  · have hrange : 'A'.val ≤ c.val ∧ c.val ≤ 'Z'.val := of_decide_eq_true hupper
    exact ⟨(0x41, 0x5A), by decide, hrange.1, hrange.2⟩
  · have hrange : ('a'.val ≤ c.val && c.val ≤ 'z'.val) = true := hlower
    rw [Bool.and_eq_true, decide_eq_true_eq, decide_eq_true_eq] at hrange
    exact ⟨(0x61, 0x7A), by decide, hrange.1, hrange.2⟩
  · rw [of_decide_eq_true hscore]
    exact ⟨(0x5F, 0x5F), by decide, by decide, by decide⟩

theorem isBlank_of_isIdentStart {c : Char} (hc : isIdentStart c = true) : isBlank c = false :=
  contains_eq_false (by decide) (contains_letterRanges hc)

theorem isDigit_of_isIdentStart {c : Char} (hc : isIdentStart c = true) : isDigit c = false :=
  contains_eq_false (by decide +kernel) (contains_letterRanges hc)

theorem of_isPunctStart {c : Char} (hc : isPunctStart c = true) :
    isBlank c = false ∧ (c = '"' || c = '\'') = false ∧ isDigit c = false ∧
      isIdentStart c = false := by
  have hall : ("()[]\x7b\x7d:,.|*<>=-".toList.all fun c =>
      !isBlank c && !(c = '"' || c = '\'') && !isDigit c && !isIdentStart c) = true := by
    decide +kernel
  have hsign := List.all_eq_true.mp hall c (List.contains_iff_mem.mp hc)
  simp only [Bool.and_eq_true, Bool.not_eq_true', and_assoc] at hsign
  exact hsign

theorem of_quote {c : Char} (hc : (c = '"' || c = '\'') = true) :
    isBlank c = false ∧ isDigit c = false ∧ isIdentStart c = false := by
  rw [Bool.or_eq_true, decide_eq_true_eq, decide_eq_true_eq] at hc
  rcases hc with rfl | rfl <;> decide +kernel

theorem isQuote_of_isDigit {c : Char} (hc : isDigit c = true) : (c = '"' || c = '\'') = false := by
  rw [← Bool.not_eq_true]
  intro h
  exact absurd hc (by simp [(of_quote h).2.1])

theorem isQuote_of_isIdentStart {c : Char} (hc : isIdentStart c = true) :
    (c = '"' || c = '\'') = false := by
  rw [← Bool.not_eq_true]
  intro h
  exact absurd hc (by simp [(of_quote h).2.2])

def separates (c : Char) : Bool :=
  isBlank c || (c = '"' || c = '\'')

theorem separates_of_isDigit {c : Char} (hc : isDigit c = true) : separates c = false := by
  rw [separates, isBlank_of_isDigit hc, isQuote_of_isDigit hc, Bool.or_false]

theorem separates_of_isIdentStart {c : Char} (hc : isIdentStart c = true) :
    separates c = false := by
  rw [separates, isBlank_of_isIdentStart hc, isQuote_of_isIdentStart hc, Bool.or_false]

theorem separates_of_isIdentRest {c : Char} (hc : isIdentRest c = true) : separates c = false := by
  have hrest : (c.isAlpha || c.isDigit || c = '_') = true := hc
  rw [Bool.or_right_comm, Bool.or_eq_true] at hrest
  rcases hrest with hc | hc
  · exact separates_of_isIdentStart hc
  · exact separates_of_isDigit (isDigit_ascii c hc)

theorem separates_of_isPunctStart {c : Char} (hc : isPunctStart c = true) :
    separates c = false := by
  obtain ⟨hblank, hquote, -⟩ := of_isPunctStart hc
  rw [separates, hblank, hquote, Bool.or_false]

theorem within_lexicon {kind : TokenKind} (hkind : kind ≠ .str) :
    Within (fun c => separates c = false) (lexicon (some kind)) := by
  have hnumeral : Within (fun c => separates c = false) numeral :=
    within_numeral fun _ hc => separates_of_isDigit hc
  match kind with
  | .str => contradiction
  | .number =>
    refine (hnumeral.mul (Within.optional ?_)).mul (Within.optional ?_)
    · refine (within_single ?_).mul hnumeral
      intro c hc
      rw [of_decide_eq_true hc]
      decide
    · refine ((within_single ?_).mul (within_single ?_).optional).mul hnumeral
      · intro c hc
        rw [Bool.or_eq_true, decide_eq_true_eq, decide_eq_true_eq] at hc
        rcases hc with rfl | rfl <;> decide
      · intro c hc
        rw [Bool.or_eq_true, decide_eq_true_eq, decide_eq_true_eq] at hc
        rcases hc with rfl | rfl <;> decide
  | .ident =>
    apply Within.mul
    · exact within_single fun _ hc => separates_of_isIdentStart hc
    · exact within_kstar_single fun _ hc => separates_of_isIdentRest hc
  | .punct =>
    intro cs hcs c hc
    rcases (Language.mem_add _ _ _).mp hcs with hcs | hcs
    · have hall : (digraphs.all fun cs => cs.all fun c => !separates c) = true := by decide
      have hdigraph := List.all_eq_true.mp (List.all_eq_true.mp hall cs hcs) c hc
      rwa [Bool.not_eq_true'] at hdigraph
    · exact within_single (fun _ hd => separates_of_isPunctStart hd) cs hcs c hc

theorem lexeme?_of_isBlank {c : Char} (hc : isBlank c = true) (cs : List Char) :
    lexeme? (c :: cs) = some (none, 1 + (cs.takeWhile isBlank).length) := by
  rw [lexeme?, if_pos hc]

theorem lexeme?_of_quote {c : Char} (hc : (c = '"' || c = '\'') = true) (cs : List Char) :
    lexeme? (c :: cs) = (bodyLength? c cs).map fun n => (some .str, 1 + n) := by
  rw [lexeme?, (of_quote hc).1, if_neg Bool.false_ne_true, if_pos hc]

theorem lexeme?_of_isDigit {c : Char} (hc : isDigit c = true) (cs : List Char) :
    lexeme? (c :: cs) = some (some .number, 1 + numberLength cs) := by
  rw [lexeme?, isBlank_of_isDigit hc, if_neg Bool.false_ne_true, isQuote_of_isDigit hc,
    if_neg Bool.false_ne_true, if_pos hc, numberLength_cons hc]

theorem lexeme?_of_isIdentStart {c : Char} (hc : isIdentStart c = true) (cs : List Char) :
    lexeme? (c :: cs) = some (some .ident, 1 + (cs.takeWhile isIdentRest).length) := by
  rw [lexeme?, isBlank_of_isIdentStart hc, if_neg Bool.false_ne_true, isQuote_of_isIdentStart hc,
    if_neg Bool.false_ne_true, isDigit_of_isIdentStart hc, if_neg Bool.false_ne_true, if_pos hc]

theorem lexeme?_of_isPunctStart {c : Char} (hc : isPunctStart c = true) (cs : List Char) :
    lexeme? (c :: cs) = some (some .punct, punctLength (c :: cs)) := by
  obtain ⟨hblank, hquote, hdigit, hident⟩ := of_isPunctStart hc
  rw [lexeme?, hblank, if_neg Bool.false_ne_true, hquote, if_neg Bool.false_ne_true, hdigit,
    if_neg Bool.false_ne_true, hident, if_neg Bool.false_ne_true, if_pos hc]

theorem mem_strings {cs : List Char} : cs ∈ lexicon (some .str) ↔
    ∃ quote : Char, (quote = '"' || quote = '\'') = true ∧ cs ∈ quoted quote := by
  simp only [Bool.or_eq_true, decide_eq_true_eq]
  constructor
  · intro hcs
    rcases (Language.mem_add _ _ _).mp hcs with hcs | hcs
    · exact ⟨'"', .inl rfl, hcs⟩
    · exact ⟨'\'', .inr rfl, hcs⟩
  · rintro ⟨quote, rfl | rfl, hcs⟩
    · exact (Language.mem_add _ _ _).mpr (.inl hcs)
    · exact (Language.mem_add _ _ _).mpr (.inr hcs)

theorem lexeme?_mem {cs : List Char} {kind : Option TokenKind} {n : Nat}
    (h : lexeme? cs = some (kind, n)) : n ≤ cs.length ∧ cs.take n ∈ lexicon kind := by
  cases cs with
  | nil => contradiction
  | cons c cs =>
    by_cases hblank : isBlank c = true
    · rw [lexeme?_of_isBlank hblank] at h
      cases h
      exact (greedy_kstar isBlank).single_mul hblank cs
    by_cases hquote : (c = '"' || c = '\'') = true
    · rw [lexeme?_of_quote hquote] at h
      obtain ⟨m, hm, heq⟩ := Option.map_eq_some_iff.mp h
      cases heq
      obtain ⟨body, rest, hbody, rfl, rfl⟩ := mem_of_bodyLength? hm
      refine ⟨by simp; omega, mem_strings.mpr ⟨c, hquote, mem_quoted.mpr ⟨body, hbody, ?_⟩⟩⟩
      rw [Nat.add_comm, List.take_succ_cons, List.take_append, List.take_of_length_le (by omega)]
      simp
    by_cases hdigit : isDigit c = true
    · rw [lexeme?_of_isDigit hdigit] at h
      cases h
      rw [lexicon_number]
      exact greedy_number.single_mul hdigit cs
    by_cases hident : isIdentStart c = true
    · rw [lexeme?_of_isIdentStart hident] at h
      cases h
      exact (greedy_kstar isIdentRest).single_mul hident cs
    by_cases hpunct : isPunctStart c = true
    · rw [lexeme?_of_isPunctStart hpunct] at h
      cases h
      exact punctLength_sound hpunct cs
    · rw [lexeme?, if_neg hblank, if_neg hquote, if_neg hdigit, if_neg hident, if_neg hpunct] at h
      contradiction

theorem lexeme?_str {cs : List Char} (hcs : cs ∈ lexicon (some .str)) (rest : List Char) :
    lexeme? (cs ++ rest) = some (some .str, cs.length) := by
  obtain ⟨quote, hquote, hcs⟩ := mem_strings.mp hcs
  obtain ⟨body, hbody, rfl⟩ := mem_quoted.mp hcs
  have hback : quote ≠ '\\' := by
    rintro rfl
    contradiction
  rw [List.cons_append, lexeme?_of_quote hquote, List.append_assoc, List.singleton_append,
    bodyLength?_of_mem hback hbody]
  simp [Nat.add_comm]

theorem exists_lexeme? {kind : Option TokenKind} {cs : List Char} (hcs : cs ∈ lexicon kind)
    (rest : List Char) : ∃ n, lexeme? (cs ++ rest) = some (kind, n) ∧ cs.length ≤ n := by
  match kind with
  | none =>
    obtain ⟨c, ds, heq, hc, hle⟩ := (greedy_kstar isBlank).le_of_mem_single_mul hcs rest
    exact ⟨_, by rw [heq, lexeme?_of_isBlank hc], hle⟩
  | some .str => exact ⟨_, lexeme?_str hcs rest, Nat.le_refl _⟩
  | some .number =>
    rw [lexicon_number] at hcs
    obtain ⟨c, ds, heq, hc, hle⟩ := greedy_number.le_of_mem_single_mul hcs rest
    exact ⟨_, by rw [heq, lexeme?_of_isDigit hc], hle⟩
  | some .ident =>
    obtain ⟨c, ds, heq, hc, hle⟩ := (greedy_kstar isIdentRest).le_of_mem_single_mul hcs rest
    exact ⟨_, by rw [heq, lexeme?_of_isIdentStart hc], hle⟩
  | some .punct =>
    obtain ⟨c, ds, heq, hc, hle⟩ := le_punctLength hcs rest
    exact ⟨_, by rw [heq, lexeme?_of_isPunctStart hc], hle⟩

theorem lexeme?_eq_some_iff (cs : List Char) (kind : Option TokenKind) (n : Nat) :
    lexeme? cs = some (kind, n) ↔ n ≤ cs.length ∧ cs.take n ∈ lexicon kind ∧
      ∀ kind' word, word <+: cs → word ∈ lexicon kind' → word.length ≤ n := by
  constructor
  · intro h
    obtain ⟨hle, hmem⟩ := lexeme?_mem h
    refine ⟨hle, hmem, ?_⟩
    rintro kind' word ⟨rest, rfl⟩ hword
    obtain ⟨m, hm, hlength⟩ := exists_lexeme? hword rest
    rw [h] at hm
    cases hm
    exact hlength
  · rintro ⟨hle, hmem, hlongest⟩
    obtain ⟨m, hm, hlength⟩ := exists_lexeme? hmem (cs.drop n)
    rw [List.take_append_drop] at hm
    rw [List.length_take, Nat.min_eq_left hle] at hlength
    obtain ⟨hm', hmem'⟩ := lexeme?_mem hm
    have hshort := hlongest kind _ (List.take_prefix m cs) hmem'
    rw [List.length_take, Nat.min_eq_left hm'] at hshort
    rw [hm, Nat.le_antisymm hshort hlength]

theorem lexeme?_eq_none_iff (cs : List Char) :
    lexeme? cs = none ↔ ∀ kind word, word <+: cs → word ∉ lexicon kind := by
  constructor
  · rintro h kind word ⟨rest, rfl⟩ hword
    obtain ⟨n, hn, -⟩ := exists_lexeme? hword rest
    rw [h] at hn
    contradiction
  · intro h
    cases hlexeme : lexeme? cs with
    | none => rfl
    | some found =>
      obtain ⟨kind, n⟩ := found
      exact absurd (lexeme?_mem hlexeme).2 (h kind _ (List.take_prefix n cs))

end PageGraph.Query
