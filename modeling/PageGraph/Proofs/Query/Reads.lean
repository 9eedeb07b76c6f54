import PageGraph.Proofs.Except
import PageGraph.Proofs.Query.Phrase
import PageGraph.Query.Parser

namespace PageGraph.Query

open Phrase

def anywhere (_ : List Token) : Bool :=
  true

/-- Where the tokens are as told by `start`, the reader takes a phrase and gives its value, if the
tokens after it do not start with one of `more`. It takes nothing else. Completeness and uniqueness
are about the phrases of fewer tokens than `bound`. -/
structure Reads {α β : Type} [Phrase α] (bound : Nat) (start : List Token → Bool) (read : Reader β)
    (value : α → β) (more : Token → Bool) : Prop where
  first : ∀ (a : α) rest, start (tokens a ++ rest) = true
  sound : ∀ ts b rest, start ts = true → read ts = .ok (b, rest) →
    ∃ a : α, tokens a ++ rest = ts ∧ value a = b
  complete : ∀ (a : α) rest, (tokens a).length < bound → opens more rest = false →
    read (tokens a ++ rest) = .ok (value a, rest)
  unique : ∀ a a' : α, (tokens a).length < bound → tokens a = tokens a' → a = a'

namespace Reads

variable {α β γ δ : Type} [Phrase α] [Phrase γ] {bound : Nat} {start : List Token → Bool}
  {read : Reader β} {value : α → β} {more : Token → Bool}

theorem unguarded (h : Reads bound start read value more)
    (hstart : ∀ ts x, read ts = .ok x → start ts = true) :
    Reads bound anywhere read value more := by
  refine ⟨fun _ _ => rfl, ?_, h.complete, h.unique⟩
  intro ts b rest _ hread
  exact h.sound ts b rest (hstart ts _ hread) hread

theorem guarded (h : Reads bound anywhere read value more)
    (hfirst : ∀ (a : α) rest, start (tokens a ++ rest) = true) :
    Reads bound start read value more := by
  refine ⟨hfirst, ?_, h.complete, h.unique⟩
  intro ts b rest _ hread
  exact h.sound ts b rest rfl hread

theorem congr {read' : Reader β} (h : Reads bound start read value more)
    (hread : ∀ ts, read' ts = read ts) : Reads bound start read' value more := by
  rwa [funext hread]

theorem weaken {more' : Token → Bool} (h : Reads bound start read value more)
    (hmore : ∀ t, more t = true → more' t = true) : Reads bound start read value more' := by
  refine ⟨h.first, h.sound, ?_, h.unique⟩
  intro a rest hlt hrest
  apply h.complete a rest hlt
  cases rest with
  | nil => rfl
  | cons t rest =>
    rw [opens_cons, Bool.eq_false_iff] at hrest ⊢
    exact mt (hmore t) hrest

theorem settle (h : Reads bound start read value fun t => more t || never t) :
    Reads bound start read value more := by
  apply h.weaken
  intro t ht
  rwa [never_eq, Bool.or_false] at ht

theorem transfer {α' : Type} [Phrase α'] {value' : α' → β} {f : α → α'}
    (h : Reads bound start read value more) (hf : Function.Surjective f)
    (htokens : ∀ a, tokens (f a) = tokens a) (hvalue : ∀ a, value' (f a) = value a) :
    Reads bound start read value' more := by
  refine ⟨?_, ?_, ?_, ?_⟩
  · intro b rest
    obtain ⟨a, rfl⟩ := hf b
    rw [htokens]
    exact h.first a rest
  · intro ts b rest hstart hread
    obtain ⟨a, ha, hb⟩ := h.sound ts b rest hstart hread
    exact ⟨f a, by rw [htokens, ha], by rw [hvalue, hb]⟩
  · intro b rest hb hrest
    obtain ⟨a, rfl⟩ := hf b
    rw [htokens] at hb ⊢
    rw [hvalue]
    exact h.complete a rest hb hrest
  · intro b b' hb heq
    obtain ⟨a, rfl⟩ := hf b
    obtain ⟨a', rfl⟩ := hf b'
    rw [htokens] at hb
    rw [htokens, htokens] at heq
    rw [h.unique a a' hb heq]

theorem lexeme {p : Token → Bool} {v : Token → β}
    (hread : ∀ t ts, p t = true → read (t :: ts) = .ok (v t, ts)) :
    Reads bound (opens p) read (fun t : Lexeme p => v t.1) never := by
  refine ⟨fun t _ => t.2, ?_, ?_, ?_⟩
  · intro ts b rest hts h
    obtain ⟨t, ts, rfl, ht⟩ := exists_of_opens hts
    rw [hread t ts ht] at h
    cases h
    exact ⟨⟨t, ht⟩, rfl, rfl⟩
  · intro t rest _ _
    exact hread t.1 rest t.2
  · intro t t' _ h
    exact Subtype.ext (List.cons.inj h).1

theorem spelled {spells : β → Token → Prop} {f : Token → Option β}
    (hf : ∀ t b, f t = some b ↔ spells b t)
    (hread : ∀ t ts b, f t = some b → read (t :: ts) = .ok (b, ts))
    (hfail : ∀ ts x, read ts = .ok x → opens (fun t => (f t).isSome) ts = true) :
    Reads bound anywhere read (fun s : Spelled spells => s.meaning) never := by
  refine ⟨fun _ _ => rfl, ?_, ?_, ?_⟩
  · intro ts b rest _ h
    obtain ⟨t, ts, rfl, ht⟩ := exists_of_opens (hfail ts _ h)
    obtain ⟨b', hb⟩ := Option.isSome_iff_exists.mp ht
    rw [hread t ts b' hb] at h
    cases h
    exact ⟨⟨b, t, (hf t b).mp hb⟩, rfl, rfl⟩
  · intro s rest _ _
    exact hread s.token rest s.meaning ((hf _ _).mpr s.isSpelled)
  · rintro ⟨b, t, hb⟩ ⟨b', t', hb'⟩ _ h
    obtain rfl : t = t' := (List.cons.inj h).1
    obtain rfl : b = b' := Option.some.inj (((hf t b).mpr hb).symm.trans ((hf t b').mpr hb'))
    rfl

theorem eq_of_append_eq (h : Reads bound start read value more) {a a' : α} {u u' : List Token}
    (hlt : (tokens a ++ u).length < bound) (heq : tokens a ++ u = tokens a' ++ u')
    (hu : opens more u = false) (hu' : opens more u' = false) : a = a' ∧ u = u' := by
  have hlt' := hlt
  rw [heq, List.length_append] at hlt'
  rw [List.length_append] at hlt
  have hread := h.complete a u (by omega) hu
  rw [heq, h.complete a' u' (by omega) hu', Except.ok.injEq, Prod.mk.injEq] at hread
  obtain ⟨_, rfl⟩ := hread
  exact ⟨h.unique a a' (by omega) (List.append_cancel_right heq), rfl⟩

section

variable {α' : Type} [Phrase α'] {k : β × List Token → Except Misfit (δ × List Token)}
  {after : Token → Bool}

theorem bindOf {f : α' → α} {next : α' × γ → δ} (h : Reads bound start read value more)
    (hf : Function.Injective f) (htokens : ∀ a, tokens (f a) = tokens a)
    (hrange : ∀ a ts x, k (value a, ts) = .ok x → ∃ a', f a' = a)
    (hk : ∀ a, Reads bound anywhere (fun ts => k (value (f a), ts)) (fun c => next (a, c)) after)
    (hmore : ∀ (c : γ) rest, opens after rest = false → opens more (tokens c ++ rest) = false) :
    Reads bound start (fun ts => read ts >>= k) next after := by
  refine ⟨?_, ?_, ?_, ?_⟩
  · rintro ⟨a, c⟩ rest
    rw [tokens_pair, List.append_assoc, ← htokens]
    exact h.first (f a) _
  · intro ts d rest hstart hread
    obtain ⟨⟨b, ts'⟩, hb, hd⟩ := bind_eq_ok.mp hread
    obtain ⟨a, rfl, rfl⟩ := h.sound ts b ts' hstart hb
    obtain ⟨a, rfl⟩ := hrange a ts' _ hd
    obtain ⟨c, rfl, rfl⟩ := (hk a).sound ts' d rest rfl hd
    exact ⟨(a, c), by rw [tokens_pair, List.append_assoc, htokens], rfl⟩
  · rintro ⟨a, c⟩ rest hlt hrest
    rw [tokens_pair, List.length_append, ← htokens] at hlt
    rw [tokens_pair, List.append_assoc, ← htokens]
    rw [h.complete (f a) _ (by omega) (hmore c rest hrest)]
    exact (hk a).complete c rest (by omega) hrest
  · rintro ⟨a, c⟩ ⟨a', c'⟩ hlt heq
    rw [tokens_pair, ← htokens] at hlt
    rw [tokens_pair, tokens_pair, ← htokens, ← htokens] at heq
    have hc := hmore c [] rfl
    have hc' := hmore c' [] rfl
    rw [List.append_nil] at hc hc'
    obtain ⟨ha, hcc⟩ := h.eq_of_append_eq hlt heq hc hc'
    rw [List.length_append] at hlt
    obtain rfl := (hk a).unique c c' (by omega) hcc
    rw [hf ha]

theorem bind {next : α × γ → δ} (h : Reads bound start read value more)
    (hk : ∀ a, Reads bound anywhere (fun ts => k (value a, ts)) (fun c => next (a, c)) after)
    (hmore : ∀ (c : γ) rest, opens after rest = false → opens more (tokens c ++ rest) = false) :
    Reads bound start (fun ts => read ts >>= k) next after :=
  h.bindOf Function.injective_id (fun _ => rfl) (fun a _ _ _ => ⟨a, rfl⟩) hk hmore

end

theorem bindSome {read : Reader (List β)} {k : List β × List Token → Except Misfit (δ × List Token)}
    {next : (α × List α) × γ → δ} {after : Token → Bool}
    (h : Reads bound start read (List.map value) more) (hnil : ∀ ts x, k ([], ts) ≠ .ok x)
    (hk : ∀ a as, Reads bound anywhere (fun ts => k (value a :: List.map value as, ts))
      (fun c => next ((a, as), c)) after)
    (hmore : ∀ (c : γ) rest, opens after rest = false → opens more (tokens c ++ rest) = false) :
    Reads bound start (fun ts => read ts >>= k) next after := by
  apply h.bindOf (f := fun x : α × List α => x.1 :: x.2) _ (fun _ => rfl) _ (fun x => hk x.1 x.2)
    hmore
  · rintro ⟨a, as⟩ ⟨a', as'⟩ heq
    obtain ⟨rfl, rfl⟩ := List.cons.inj heq
    rfl
  · intro as ts x hx
    cases as with
    | nil => exact absurd hx (hnil ts x)
    | cons a as => exact ⟨(a, as), rfl⟩

theorem map {k : β × List Token → Except Misfit (δ × List Token)} {next : α → δ}
    (h : Reads bound start read value more) (hk : ∀ a ts, k (value a, ts) = .ok (next a, ts)) :
    Reads bound start (fun ts => read ts >>= k) next more := by
  refine ⟨h.first, ?_, ?_, h.unique⟩
  · intro ts d rest hstart hread
    obtain ⟨⟨b, ts'⟩, hb, hd⟩ := bind_eq_ok.mp hread
    obtain ⟨a, rfl, rfl⟩ := h.sound ts b ts' hstart hb
    rw [hk] at hd
    cases hd
    exact ⟨a, rfl, rfl⟩
  · intro a rest hlt hrest
    rw [h.complete a rest hlt hrest]
    exact hk a rest

theorem after {p : Token → Bool} {small : Nat} (h : Reads bound anywhere read value more)
    (hle : small ≤ bound + 1) :
    Reads small (opens p) (fun ts => read ts.tail) (fun x : Lexeme p × α => value x.2) more := by
  refine ⟨fun x _ => x.1.2, ?_, ?_, ?_⟩
  · intro ts b rest hts hread
    obtain ⟨t, ts, rfl, ht⟩ := exists_of_opens hts
    obtain ⟨a, rfl, rfl⟩ := h.sound ts b rest rfl hread
    exact ⟨(⟨t, ht⟩, a), rfl, rfl⟩
  · rintro ⟨t, a⟩ rest hlt hrest
    rw [tokens_pair, tokens_lexeme, List.length_append, List.length_singleton] at hlt
    exact h.complete a rest (by omega) hrest
  · rintro ⟨t, a⟩ ⟨t', a'⟩ hlt heq
    rw [tokens_pair, tokens_lexeme, List.length_append, List.length_singleton] at hlt
    obtain ⟨ht, ha⟩ := List.cons.inj heq
    obtain rfl := h.unique a a' (by omega) ha
    obtain rfl := Subtype.ext ht
    rfl

theorem branch {p : Token → Bool} {value : Option α → β} {other : Reader β}
    (h : Reads bound (opens p) read (fun a => value (some a)) more)
    (hother : ∀ ts, other ts = .ok (value none, ts)) :
    Reads bound anywhere (fun ts => if opens p ts then read ts else other ts) value
      (fun t => p t || more t) := by
  refine ⟨fun _ _ => rfl, ?_, ?_, ?_⟩
  · intro ts b rest _ hread
    split at hread
    · next hts =>
      obtain ⟨a, ha, hb⟩ := h.sound ts b rest hts hread
      exact ⟨some a, ha, hb⟩
    · rw [hother] at hread
      cases hread
      exact ⟨none, rfl, rfl⟩
  · intro o rest hlt hrest
    obtain ⟨hp, hmore⟩ := opens_or_eq_false.mp hrest
    cases o with
    | none =>
      rw [tokens_none, List.nil_append, hp]
      exact hother rest
    | some a =>
      rw [tokens_some, h.first a rest]
      exact h.complete a rest hlt hmore
  · have hne (a : α) : tokens a ≠ [] := by
      intro hnil
      have hfirst := h.first a []
      rw [hnil] at hfirst
      contradiction
    intro o o' hlt heq
    cases o with
    | none =>
      cases o' with
      | none => rfl
      | some a' => exact absurd heq.symm (hne a')
    | some a =>
      cases o' with
      | none => exact absurd heq (hne a)
      | some a' => rw [h.unique a a' hlt heq]

theorem choice {other : Reader β} {value' : γ → β} {more' : Token → Bool}
    (h : Reads bound start read value more) (h' : Reads bound anywhere other value' more')
    (hstart : ∀ (c : γ) rest, start (tokens c ++ rest) = false) :
    Reads bound anywhere (fun ts => if start ts then read ts else other ts)
      (Sum.elim value value') (fun t => more t || more' t) := by
  refine ⟨fun _ _ => rfl, ?_, ?_, ?_⟩
  · intro ts b rest _ hread
    split at hread
    · next hts =>
      obtain ⟨a, ha, hb⟩ := h.sound ts b rest hts hread
      exact ⟨.inl a, ha, hb⟩
    · obtain ⟨c, hc, hb⟩ := h'.sound ts b rest rfl hread
      exact ⟨.inr c, hc, hb⟩
  · intro x rest hlt hrest
    obtain ⟨hmore, hmore'⟩ := opens_or_eq_false.mp hrest
    cases x with
    | inl a =>
      rw [tokens_inl, h.first a rest]
      exact h.complete a rest hlt hmore
    | inr c =>
      rw [tokens_inr, hstart c rest]
      exact h'.complete c rest hlt hmore'
  · have hne (a : α) (c : γ) : tokens a ≠ tokens c := by
      intro heq
      have hfirst := h.first a []
      rw [heq, hstart c []] at hfirst
      contradiction
    intro x x' hlt heq
    cases x with
    | inl a =>
      cases x' with
      | inl a' => rw [h.unique a a' hlt heq]
      | inr c' => exact absurd heq (hne a c')
    | inr c =>
      cases x' with
      | inl a' => exact absurd heq.symm (hne a' c)
      | inr c' => rw [h'.unique c c' hlt heq]

theorem exists_tokens_eq {p : Token → Bool} (h : Reads bound (opens p) read value more) (a : α) :
    ∃ t ts, tokens a = t :: ts ∧ p t = true := by
  have hfirst := h.first a []
  rw [List.append_nil] at hfirst
  exact exists_of_opens hfirst

section

variable {p : Token → Bool}

theorem opens_items (h : Reads bound (opens p) read value more)
    (hp : ∀ t, p t = true → more t = false) (as : List α) (rest : List Token)
    (hrest : opens more rest = false) : opens more (tokens as ++ rest) = false := by
  cases as with
  | nil => exact hrest
  | cons a as =>
    obtain ⟨t, ts, ha, ht⟩ := h.exists_tokens_eq a
    rw [tokens_cons, ha]
    exact hp t ht

theorem length_items (h : Reads bound (opens p) read value more) (as : List α) :
    as.length ≤ (tokens as).length := by
  induction as with
  | nil => exact Nat.le_refl 0
  | cons a as ih =>
    obtain ⟨t, ts, ha, _⟩ := h.exists_tokens_eq a
    rw [tokens_cons, ha, List.length_append, List.length_cons, List.length_cons]
    omega

theorem sound_items (h : Reads bound (opens p) read value more) (n : Nat) (ts : List Token)
    (bs : List β) (rest : List Token) (hread : readManyUpTo (opens p) read n ts = .ok (bs, rest)) :
    ∃ as : List α, tokens as ++ rest = ts ∧ as.map value = bs := by
  induction n generalizing ts bs with
  | zero =>
    cases hread
    exact ⟨[], rfl, rfl⟩
  | succ n ih =>
    rw [readManyUpTo] at hread
    split at hread
    · next hts =>
      obtain ⟨⟨b, ts'⟩, hb, hread⟩ := bind_eq_ok.mp hread
      obtain ⟨⟨bs', ts''⟩, hbs, hread⟩ := bind_eq_ok.mp hread
      cases hread
      obtain ⟨a, rfl, rfl⟩ := h.sound ts b ts' hts hb
      obtain ⟨as, rfl, rfl⟩ := ih ts' bs' hbs
      exact ⟨a :: as, by rw [tokens_cons, List.append_assoc], rfl⟩
    · cases hread
      exact ⟨[], rfl, rfl⟩

theorem complete_items (h : Reads bound (opens p) read value more)
    (hp : ∀ t, p t = true → more t = false) (n : Nat) (as : List α) (rest : List Token)
    (hn : as.length ≤ n) (hlt : (tokens as).length < bound) (hstop : opens p rest = false)
    (hrest : opens more rest = false) :
    readManyUpTo (opens p) read n (tokens as ++ rest) = .ok (as.map value, rest) := by
  induction n generalizing as with
  | zero =>
    rw [List.length_eq_zero_iff.mp (Nat.le_zero.mp hn)]
    rfl
  | succ n ih =>
    cases as with
    | nil =>
      rw [tokens_nil, List.nil_append, readManyUpTo, hstop]
      rfl
    | cons a as =>
      rw [tokens_cons, List.length_append] at hlt
      rw [tokens_cons, List.append_assoc, readManyUpTo, h.first a, if_pos rfl,
        h.complete a _ (by omega) (h.opens_items hp as rest hrest)]
      have has := ih as (Nat.le_of_succ_le_succ hn) (by omega)
      change (readManyUpTo _ _ _ _ >>= _) = _
      rw [has]
      rfl

theorem unique_items (h : Reads bound (opens p) read value more)
    (hp : ∀ t, p t = true → more t = false) (as as' : List α) (hlt : (tokens as).length < bound)
    (heq : tokens as = tokens as') : as = as' := by
  have hne (a : α) (as : List α) : tokens (a :: as) ≠ [] := by
    obtain ⟨t, ts, ha, _⟩ := h.exists_tokens_eq a
    rw [tokens_cons, ha]
    exact List.cons_ne_nil _ _
  induction as generalizing as' with
  | nil =>
    cases as' with
    | nil => rfl
    | cons a' as' => exact absurd heq.symm (hne a' as')
  | cons a as ih =>
    cases as' with
    | nil => exact absurd heq (hne a as)
    | cons a' as' =>
      rw [tokens_cons] at hlt heq
      have has (as : List α) := h.opens_items hp as [] rfl
      simp only [List.append_nil] at has
      obtain ⟨rfl, has'⟩ := h.eq_of_append_eq hlt heq (has as) (has as')
      rw [List.length_append] at hlt
      rw [ih as' (by omega) has']

theorem many (h : Reads bound (opens p) read value more) (hp : ∀ t, p t = true → more t = false) :
    Reads bound anywhere (readMany (opens p) read) (List.map value) (fun t => p t || more t) := by
  refine ⟨fun _ _ => rfl, ?_, ?_, h.unique_items hp⟩
  · intro ts bs rest _
    exact h.sound_items ts.length ts bs rest
  · intro as rest hlt hrest
    obtain ⟨hstop, hrest⟩ := opens_or_eq_false.mp hrest
    have hlength := h.length_items as
    rw [readMany, List.length_append]
    exact h.complete_items hp _ as rest (by omega) hlt hstop hrest

theorem option (h : Reads bound (opens p) read value more) :
    Reads bound anywhere (readIf (opens p) read) (Option.map value) (fun t => p t || more t) := by
  apply branch
  · exact h.map fun _ _ => rfl
  · intro ts
    rfl

theorem optionFrom (h : Reads bound anywhere read value never)
    (hfirst : ∀ (a : α) rest, opens p (tokens a ++ rest) = true) :
    Reads bound anywhere (readIf (opens p) read) (Option.map value) p :=
  (h.guarded hfirst).option.settle

theorem announced (h : Reads bound anywhere read value more) :
    Reads bound anywhere (readAfter (opens p) read)
      (Option.map fun x : Lexeme p × α => value x.2) (fun t => p t || more t) :=
  (h.after (Nat.le_succ bound)).option

theorem separated (h : Reads bound anywhere read value more)
    (hp : ∀ t, p t = true → more t = false) :
    Reads bound anywhere (readSeparated (opens p) read)
      (fun x : α × List (Lexeme p × α) => value x.1 :: x.2.map fun y => value y.2)
      (fun t => p t || more t) := by
  have hrest := (h.after (Nat.le_succ bound)).many hp
  apply h.bind
  · intro a
    exact hrest.map fun _ _ => rfl
  · intro as rest hafter
    exact (h.after (Nat.le_succ bound)).opens_items hp as rest (opens_or_eq_false.mp hafter).2

end

end Reads

end PageGraph.Query
