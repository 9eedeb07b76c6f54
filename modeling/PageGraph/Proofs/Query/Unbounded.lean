import PageGraph.Proofs.Query.Recognition.Predicates

/-!
The bounds on repetition and on nesting are never met: each item takes a token, and so does each
parenthesis. Without them the readers go on as long as the tokens tell them to, and a predicate in
parentheses is read as any other.
-/

namespace PageGraph.Query

open Phrase

namespace Reads

variable {α β : Type} [Phrase α] {bound : Nat} {read : Reader β} {value : α → β}
  {more : Token → Bool}

theorem length_le (h : Reads bound anywhere read value more) (ts : List Token) (b : β)
    (rest : List Token) (hread : read ts = .ok (b, rest)) : rest.length ≤ ts.length := by
  obtain ⟨a, rfl, _⟩ := h.sound ts b rest rfl hread
  rw [List.length_append]
  omega

theorem length_lt (h : Reads bound anywhere read value more) (hne : ∀ a : α, tokens a ≠ [])
    (ts : List Token) (b : β) (rest : List Token) (hread : read ts = .ok (b, rest)) :
    rest.length < ts.length := by
  obtain ⟨a, rfl, _⟩ := h.sound ts b rest rfl hread
  have := List.length_pos_iff.mpr (hne a)
  rw [List.length_append]
  omega

end Reads

variable {β : Type} {p : Token → Bool} {item item' : Reader β} {n : Nat}

theorem length_lt_of_opens
    (hitem : ∀ ts b rest, item ts = .ok (b, rest) → rest.length ≤ ts.length) (ts : List Token) (b : β)
    (rest : List Token) (hts : opens p ts = true) (hread : item ts.tail = .ok (b, rest)) :
    rest.length < ts.length := by
  obtain ⟨t, ts, rfl, _⟩ := exists_of_opens hts
  exact Nat.lt_succ_of_le (hitem ts b rest hread)

theorem readManyUpTo_congr
    (hshrink : ∀ ts b rest, opens p ts = true → item ts = .ok (b, rest) → rest.length < ts.length)
    (hitem : ∀ ts, ts.length ≤ n → opens p ts = true → item ts = item' ts) (k k' : Nat)
    (ts : List Token) (hn : ts.length ≤ n) (hk : ts.length ≤ k) (hk' : ts.length ≤ k') :
    readManyUpTo (opens p) item k ts = readManyUpTo (opens p) item' k' ts := by
  induction k generalizing k' ts with
  | zero =>
    obtain rfl : ts = [] := List.eq_nil_of_length_eq_zero (by omega)
    cases k' <;> rfl
  | succ k ih =>
    cases ts with
    | nil => cases k' <;> rfl
    | cons t ts =>
      cases k' with
      | zero => contradiction
      | succ k' =>
        rw [readManyUpTo, readManyUpTo]
        by_cases hopens : opens p (t :: ts) = true
        · rw [if_pos hopens, if_pos hopens, ← hitem _ hn hopens]
          apply bind_congr_ok
          rintro ⟨b, rest⟩ hread
          have hlt := hshrink _ b rest hopens hread
          change (readManyUpTo (opens p) item k rest >>= _) = _
          rw [ih k' rest (by omega) (by omega) (by omega)]
        · rw [if_neg hopens, if_neg hopens]

theorem readMany_eq
    (hshrink : ∀ ts b rest, opens p ts = true → item ts = .ok (b, rest) → rest.length < ts.length)
    (ts : List Token) :
    readMany (opens p) item ts =
      if opens p ts then do
        let (b, ts) ← item ts
        let (bs, ts) ← readMany (opens p) item ts
        return (b :: bs, ts)
      else .ok ([], ts) := by
  cases ts with
  | nil => rfl
  | cons t ts =>
    rw [readMany, List.length_cons, readManyUpTo]
    by_cases hopens : opens p (t :: ts) = true
    · rw [if_pos hopens, if_pos hopens]
      apply bind_congr_ok
      rintro ⟨b, rest⟩ hread
      have hlt := hshrink _ b rest hopens hread
      rw [List.length_cons] at hlt
      have hrest := readManyUpTo_congr hshrink (n := rest.length) (fun _ _ _ => rfl) ts.length
        rest.length rest (Nat.le_refl _) (by omega) (Nat.le_refl _)
      change (readManyUpTo (opens p) item ts.length rest >>= _) = _
      rw [hrest]
      rfl
    · rw [if_neg hopens, if_neg hopens]
      rfl

theorem readJoined_congr {word : String} {join : Predicate → Predicate → Predicate}
    {operand operand' : Reader Predicate}
    (hshrink : ∀ ts q rest, operand ts = .ok (q, rest) → rest.length ≤ ts.length)
    (hoperand : ∀ ts, ts.length ≤ n → operand ts = operand' ts) (ts : List Token)
    (hn : ts.length ≤ n) :
    readJoined word join operand ts = readJoined word join operand' ts := by
  rw [readJoined, readJoined, ← hoperand ts hn]
  apply bind_congr_ok
  rintro ⟨q, rest⟩ hread
  have hle := hshrink ts q rest hread
  have hrest : readMany (startsKeyword word) (fun ts => operand ts.tail) rest =
      readMany (startsKeyword word) (fun ts => operand' ts.tail) rest := by
    apply readManyUpTo_congr (n := n)
    · exact length_lt_of_opens hshrink
    · intro ts hts _
      apply hoperand
      rw [List.length_tail]
      omega
    · omega
    · exact Nat.le_refl _
    · exact Nat.le_refl _
  change (readMany _ (fun ts => operand ts.tail) rest >>= _) = _
  rw [hrest]

theorem readPrimary_congr {inner inner' : Reader Predicate}
    (hinner : ∀ ts, ts.length < n → inner ts = inner' ts) (ts : List Token) (hn : ts.length ≤ n) :
    readPrimary inner ts = readPrimary inner' ts := by
  rw [readPrimary, readPrimary]
  by_cases hts : startsPunct "(" ts = true
  · obtain ⟨t, rest, rfl, _⟩ := exists_of_opens hts
    rw [if_pos hts, if_pos hts, List.tail_cons, hinner rest hn]
  · rw [if_neg hts, if_neg hts]

theorem readPredicateWithin_succ_congr {depth : Nat} {inner : Reader Predicate}
    (hinner : ∀ ts, ts.length < n → readPredicateWithin depth ts = inner ts) (ts : List Token)
    (hn : ts.length ≤ n) :
    readPredicateWithin (depth + 1) ts =
      readJoined "OR" .or (readJoined "AND" .and (readPrimary inner)) ts := by
  have hreads := reads_predicateWithin depth
  apply readJoined_congr (reads_and hreads).length_le _ ts hn
  apply readJoined_congr (reads_primary hreads).length_le
  exact readPrimary_congr hinner

theorem readPredicateWithin_congr (depth depth' : Nat) (ts : List Token) (h : ts.length < depth)
    (h' : ts.length < depth') : readPredicateWithin depth ts = readPredicateWithin depth' ts := by
  induction depth generalizing depth' ts with
  | zero => contradiction
  | succ depth ih =>
    cases depth' with
    | zero => contradiction
    | succ depth' =>
      apply readPredicateWithin_succ_congr (n := ts.length) _ ts (Nat.le_refl _)
      intro us hus
      exact ih depth' us (by omega) (by omega)

theorem readPredicate_eq :
    readPredicate = readJoined "OR" .or (readJoined "AND" .and (readPrimary readPredicate)) := by
  funext ts
  apply readPredicateWithin_succ_congr (n := ts.length) _ ts (Nat.le_refl _)
  intro us hus
  exact readPredicateWithin_congr _ _ us hus (Nat.lt_succ_self _)

end PageGraph.Query
