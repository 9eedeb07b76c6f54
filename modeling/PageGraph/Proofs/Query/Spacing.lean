import PageGraph.Proofs.Except
import PageGraph.Proofs.Query.Lexicon

namespace PageGraph.Query

open Text

theorem exists_append_of_lexeme? {cs : List Char} {kind : Option TokenKind} {n : Nat}
    (h : lexeme? cs = some (kind, n)) : ∃ lexeme rest, cs = lexeme ++ rest ∧ n = lexeme.length := by
  refine ⟨cs.take n, cs.drop n, (List.take_append_drop n cs).symm, ?_⟩
  rw [List.length_take, Nat.min_eq_left (lexeme?_mem h).1]

theorem lexeme?_of_append {lexeme cs rest : List Char} {kind : Option TokenKind}
    (h : lexeme? (lexeme ++ (cs ++ rest)) = some (kind, lexeme.length)) :
    lexeme? (lexeme ++ cs) = some (kind, lexeme.length) := by
  obtain ⟨-, hmem, hlongest⟩ := (lexeme?_eq_some_iff _ kind _).mp h
  rw [List.take_left] at hmem
  refine (lexeme?_eq_some_iff _ kind _).mpr ⟨by simp, by rwa [List.take_left], ?_⟩
  intro kind' word hword
  apply hlongest kind' word
  rw [← List.append_assoc]
  exact hword.trans (List.prefix_append _ rest)

theorem lexeme?_append_separator {cs : List Char} {kind : TokenKind} {n : Nat}
    (h : lexeme? cs = some (some kind, n)) {b : Char} (hb : separates b = true)
    (rest : List Char) :
    lexeme? (cs ++ b :: rest) = some (some kind, n) := by
  obtain ⟨hle, hmem, hlongest⟩ := (lexeme?_eq_some_iff cs (some kind) n).mp h
  have htake : (cs ++ b :: rest).take n = cs.take n := List.take_append_of_le_length hle
  refine (lexeme?_eq_some_iff _ _ n).mpr ⟨?_, ?_, ?_⟩
  · rw [List.length_append]
    omega
  · rwa [htake]
  · intro kind' word hword hmem'
    obtain ⟨tail, heq⟩ := hword
    rcases List.append_eq_append_iff.mp heq with ⟨more, hcs, -⟩ | ⟨more, rfl, hmore⟩
    · exact hlongest kind' word ⟨more, hcs.symm⟩ hmem'
    cases more with
    | nil => exact hlongest kind' _ (by simp) hmem'
    | cons d more =>
      obtain ⟨rfl, -⟩ := List.cons_eq_cons.mp hmore
      obtain rfl : kind' = some kind := by
        obtain ⟨m, hm, -⟩ := exists_lexeme? hmem (cs.drop n ++ b :: more)
        obtain ⟨m', hm', -⟩ := exists_lexeme? hmem' []
        rw [← List.append_assoc, List.take_append_drop] at hm
        rw [List.append_nil, hm] at hm'
        cases hm'
        rfl
      by_cases hstr : kind = .str
      · subst hstr
        have hshort := lexeme?_str hmem (cs.drop n ++ b :: more)
        have hlong := lexeme?_str hmem' []
        rw [← List.append_assoc, List.take_append_drop] at hshort
        rw [List.append_nil, hshort] at hlong
        simp only [Option.some.injEq, Prod.mk.injEq, true_and] at hlong
        rw [← hlong, List.length_take]
        exact Nat.min_le_left _ _
      · have hnot : separates b = false := within_lexicon hstr _ hmem' b (by simp)
        rw [hb] at hnot
        contradiction

theorem tokensFrom_append {kind : Option TokenKind} {lexeme cs : List Char}
    (h : lexeme? (lexeme ++ cs) = some (kind, lexeme.length)) (offset : Nat) :
    tokensFrom offset (lexeme ++ cs) = (tokensFrom (offset + byteLength lexeme) cs).map
      ((kind.map fun k => Token.ofLexeme k lexeme offset).toList ++ ·) := by
  cases lexeme with
  | nil => exact absurd (lexeme?_pos _ _ _ h) (Nat.lt_irrefl 0)
  | cons c lexeme =>
    rw [List.cons_append] at h
    rw [List.cons_append, tokensFrom]
    split
    · next hnone =>
      rw [h] at hnone
      contradiction
    · next kind' n hsome =>
      rw [h] at hsome
      cases hsome
      rw [← List.cons_append, List.take_left, List.drop_left]
      cases kind <;> rfl

theorem tokensFrom_of_lexeme?_eq_none {c : Char} {cs : List Char} (h : lexeme? (c :: cs) = none)
    (offset : Nat) : tokensFrom offset (c :: cs) = .error ⟨faultAt c, offset⟩ := by
  rw [tokensFrom]
  split
  · rfl
  · next hsome =>
    rw [h] at hsome
    contradiction

theorem lexeme_induction {motive : List Char → Prop} (nil : motive [])
    (stuck : ∀ c cs, lexeme? (c :: cs) = none → motive (c :: cs))
    (append : ∀ kind lexeme cs, lexeme? (lexeme ++ cs) = some (kind, lexeme.length) → motive cs →
      motive (lexeme ++ cs)) (cs : List Char) : motive cs := by
  induction hlength : cs.length using Nat.strongRecOn generalizing cs with
  | ind length ih =>
    cases hlexeme : lexeme? cs with
    | none =>
      cases cs with
      | nil => exact nil
      | cons c cs => exact stuck c cs hlexeme
    | some found =>
      obtain ⟨kind, n⟩ := found
      have hpos := lexeme?_pos _ _ _ hlexeme
      obtain ⟨lexeme, rest, rfl, rfl⟩ := exists_append_of_lexeme? hlexeme
      apply append kind lexeme rest hlexeme
      apply ih rest.length _ rest rfl
      rw [← hlength, List.length_append]
      omega

theorem byteLength_cons (c : Char) (cs : List Char) :
    byteLength (c :: cs) = c.utf8Size + byteLength cs :=
  rfl

theorem byteLength_append (cs ds : List Char) :
    byteLength (cs ++ ds) = byteLength cs + byteLength ds := by
  induction cs with
  | nil => simp [byteLength]
  | cons c cs ih => rw [List.cons_append, byteLength_cons, byteLength_cons, ih, Nat.add_assoc]

theorem tokensFrom_blanks {c : Char} (hc : isBlank c = true) (offset : Nat) (cs : List Char) :
    tokensFrom offset (c :: cs) =
      tokensFrom (offset + byteLength (c :: cs.takeWhile isBlank)) (cs.dropWhile isBlank) := by
  have hparts : c :: cs = c :: cs.takeWhile isBlank ++ cs.dropWhile isBlank := by
    rw [List.cons_append, List.takeWhile_append_dropWhile]
  have hlexeme : lexeme? (c :: cs.takeWhile isBlank ++ cs.dropWhile isBlank) =
      some (none, (c :: cs.takeWhile isBlank).length) := by
    rw [← hparts, lexeme?_of_isBlank hc, List.length_cons, Nat.add_comm]
  conv_lhs => rw [hparts, tokensFrom_append hlexeme]
  cases tokensFrom (offset + byteLength (c :: cs.takeWhile isBlank)) (cs.dropWhile isBlank) <;> rfl

theorem tokensFrom_blank {c : Char} (hc : isBlank c = true) (offset : Nat) (cs : List Char) :
    tokensFrom offset (c :: cs) = tokensFrom (offset + c.utf8Size) cs := by
  rw [tokensFrom_blanks hc]
  cases cs with
  | nil => rfl
  | cons d cs =>
    by_cases hd : isBlank d = true
    · rw [tokensFrom_blanks hd, List.takeWhile_cons_of_pos hd, List.dropWhile_cons_of_pos hd]
      rw [byteLength_cons c, Nat.add_assoc]
    · rw [List.takeWhile_cons_of_neg hd, List.dropWhile_cons_of_neg hd]
      rfl

structure Span where
  token : Token
  stop : Nat

def Span.start (s : Span) : Nat :=
  s.token.offset

inductive Spans : Nat → List Char → List Span → Prop where
  | done (offset : Nat) : Spans offset [] []
  | blank {c : Char} {offset : Nat} {cs : List Char} {spans : List Span} (hc : isBlank c = true) :
    Spans (offset + c.utf8Size) cs spans → Spans offset (c :: cs) spans
  | token {kind : TokenKind} {lexeme cs : List Char} {offset : Nat} {spans : List Span}
    (h : lexeme? (lexeme ++ cs) = some (some kind, lexeme.length)) :
    Spans (offset + byteLength lexeme) cs spans → Spans offset (lexeme ++ cs)
      (⟨Token.ofLexeme kind lexeme offset, offset + byteLength lexeme⟩ :: spans)

theorem Spans.blanks {offset : Nat} {ws cs : List Char} {spans : List Span}
    (hws : ∀ c ∈ ws, isBlank c = true) (h : Spans (offset + byteLength ws) cs spans) :
    Spans offset (ws ++ cs) spans := by
  induction ws generalizing offset with
  | nil => exact h
  | cons w ws ih =>
    obtain ⟨hw, hws⟩ := List.forall_mem_cons.mp hws
    apply Spans.blank hw
    apply ih hws
    rwa [Nat.add_assoc, ← byteLength_cons]

theorem tokensFrom_eq_ok_iff (offset : Nat) (cs : List Char) (ts : List Token) :
    tokensFrom offset cs = .ok ts ↔ ∃ spans, Spans offset cs spans ∧ spans.map (·.token) = ts := by
  constructor
  · intro h
    induction cs using lexeme_induction generalizing offset ts with
    | nil =>
      rw [tokensFrom, Except.ok.injEq] at h
      exact ⟨[], .done offset, h⟩
    | stuck c cs hnone =>
      rw [tokensFrom_of_lexeme?_eq_none hnone] at h
      contradiction
    | append kind lexeme cs hlexeme ih =>
      rw [tokensFrom_append hlexeme] at h
      obtain ⟨us, hus, rfl⟩ := map_eq_ok.mp h
      obtain ⟨spans, hspans, rfl⟩ := ih _ us hus
      cases kind with
      | none =>
        have hmem := (lexeme?_mem hlexeme).2
        rw [List.take_left] at hmem
        have hblank : Within (fun c => isBlank c = true) (lexicon none) :=
          (within_single fun _ hc => hc).mul (within_kstar_single fun _ hc => hc)
        exact ⟨spans, .blanks (hblank lexeme hmem) hspans, rfl⟩
      | some kind => exact ⟨_, .token hlexeme hspans, rfl⟩
  · rintro ⟨spans, hspans, rfl⟩
    induction hspans with
    | done offset => rw [tokensFrom, List.map_nil]
    | blank hc _ ih => rw [tokensFrom_blank hc, ih]
    | token h _ ih =>
      rw [tokensFrom_append h, ih]
      rfl

theorem tokensFrom_append_separator {offset : Nat} {cs : List Char} {ts : List Token}
    (h : tokensFrom offset cs = .ok ts) {b : Char} (hb : separates b = true) (rest : List Char) :
    tokensFrom offset (cs ++ b :: rest) =
      (tokensFrom (offset + byteLength cs) (b :: rest)).map (ts ++ ·) := by
  obtain ⟨spans, hspans, rfl⟩ := (tokensFrom_eq_ok_iff offset cs ts).mp h
  clear h
  induction hspans with
  | done offset =>
    change tokensFrom offset (b :: rest) = (tokensFrom offset (b :: rest)).map _
    cases tokensFrom offset (b :: rest) <;> rfl
  | @blank c offset cs spans hc _ ih =>
    rw [List.cons_append, tokensFrom_blank hc, ih, byteLength_cons, ← Nat.add_assoc offset]
  | @token kind lexeme cs offset spans h _ ih =>
    have hlexeme := lexeme?_append_separator h hb rest
    rw [List.append_assoc] at hlexeme ⊢
    rw [tokensFrom_append hlexeme, ih, byteLength_append, Nat.add_assoc offset]
    cases tokensFrom _ (b :: rest) <;> rfl

theorem tokensFrom_append_blank {offset : Nat} {cs : List Char} {ts : List Token}
    (h : tokensFrom offset cs = .ok ts) {b : Char} (hb : isBlank b = true) (rest : List Char) :
    tokensFrom offset (cs ++ b :: rest) =
      (tokensFrom (offset + byteLength cs + b.utf8Size) rest).map (ts ++ ·) := by
  rw [tokensFrom_append_separator h (by rw [separates, hb, Bool.true_or]), tokensFrom_blank hb]

theorem tokensFrom_space {offset : Nat} {cs : List Char} {ts : List Token}
    (h : tokensFrom offset cs = .ok ts) (rest : List Char) :
    tokensFrom offset (cs ++ ' ' :: rest) =
      (tokensFrom (offset + byteLength cs + 1) rest).map (ts ++ ·) :=
  tokensFrom_append_blank h (by decide) rest

theorem lexeme?_digits {c : Char} {cs : List Char} (hall : ∀ d ∈ c :: cs, d.isDigit = true) :
    lexeme? (c :: cs) = some (some .number, (c :: cs).length) := by
  have hnone (l : Language Char) : [] ∈ optional l := mem_optional.mpr (.inl rfl)
  have hnumeral : c :: cs ∈ numeral :=
    mem_numeral.mpr ⟨List.cons_ne_nil c cs, fun d hd => isDigit_ascii d (hall d hd)⟩
  have hmem : c :: cs ∈ lexicon (some .number) := by
    have happend := Language.append_mem_mul (Language.append_mem_mul hnumeral (hnone fraction))
      (hnone exponent)
    rwa [List.append_nil, List.append_nil] at happend
  obtain ⟨n, hn, hle⟩ := exists_lexeme? hmem []
  rw [List.append_nil] at hn
  rw [hn, Nat.le_antisymm (lexeme?_mem hn).1 hle]

theorem tokensFrom_lexeme {kind : TokenKind} {lexeme : List Char}
    (h : lexeme? lexeme = some (some kind, lexeme.length)) (offset : Nat) :
    tokensFrom offset lexeme = .ok [Token.ofLexeme kind lexeme offset] := by
  rw [← List.append_nil lexeme] at h
  conv_lhs => rw [← List.append_nil lexeme, tokensFrom_append (by simpa using h), tokensFrom]
  rfl

theorem tokensFrom_toDigits (n offset : Nat) :
    tokensFrom offset (Nat.toDigits 10 n) = .ok [⟨.number, toString n, offset⟩] := by
  have hall : ∀ d ∈ Nat.toDigits 10 n, d.isDigit = true := fun _ =>
    Nat.isDigit_of_mem_toDigits (by decide) (by decide)
  have htext : toString n = String.ofList (Nat.toDigits 10 n) := Nat.repr_eq_ofList_toDigits
  rw [htext]
  cases hdigits : Nat.toDigits 10 n with
  | nil => exact absurd hdigits Nat.toDigits_ne_nil
  | cons c cs =>
    rw [hdigits] at hall
    rw [tokensFrom_lexeme (lexeme?_digits hall)]
    rfl

theorem tokensFrom_word {word : String} {c : Char} {cs : List Char} (hword : word.toList = c :: cs)
    (h : lexeme? (c :: cs) = some (some .ident, (c :: cs).length)) (offset : Nat) :
    tokensFrom offset word.toList = .ok [⟨.ident, word, offset⟩] := by
  have htext : word = String.ofList (c :: cs) := by rw [← hword, String.ofList_toList]
  rw [hword, tokensFrom_lexeme h, htext]
  rfl

end PageGraph.Query
