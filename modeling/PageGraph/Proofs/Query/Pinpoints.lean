import Mathlib.Logic.Function.Basic
import PageGraph.Proofs.Query.Reads
import PageGraph.Proofs.Query.Unbounded

namespace PageGraph.Query

open Phrase

def Token.word (t : Token) : TokenKind × String :=
  (t.kind, t.text)

def words (ts : List Token) : List (TokenKind × String) :=
  ts.map Token.word

/-- The words on which it depends how a reader goes on: the next one, and the one behind it after a
minus sign, which can be the sign of a number. -/
def glimpse : List Token → Option ((TokenKind × String) × Option (TokenKind × String))
  | [] => none
  | t :: ts => some (t.word, if t.isPunct "-" then ts.head?.map Token.word else none)

theorem words_append (ts us : List Token) : words (ts ++ us) = words ts ++ words us :=
  List.map_append

theorem exists_of_words_eq_append {ts us vs : List Token} (h : words ts = words (us ++ vs)) :
    ∃ us' vs', ts = us' ++ vs' ∧ words us' = words us ∧ words vs' = words vs := by
  rw [words_append] at h
  exact List.map_eq_append_iff.mp h

theorem exists_of_words_eq_cons {t : Token} {ts us : List Token} (h : words ts = words (t :: us)) :
    ∃ t' us', ts = t' :: us' ∧ t'.word = t.word ∧ words us' = words us :=
  List.map_eq_cons_iff.mp h

theorem factors_word {β : Type} {f : Token → β}
    (hf : ∀ kind text offset, f ⟨kind, text, offset⟩ = f ⟨kind, text, 0⟩) :
    f.FactorsThrough Token.word := by
  rintro ⟨kind, text, offset⟩ ⟨kind', text', offset'⟩ h
  cases h
  rw [hf, hf _ _ offset']

theorem isPunct_factors (p : String) :
    Function.FactorsThrough (fun t : Token => t.isPunct p) Token.word :=
  factors_word fun _ _ _ => rfl

theorem head?_of_words {ts us : List Token} (h : words ts = words us) :
    ts.head?.map Token.word = us.head?.map Token.word := by
  rw [← List.head?_map, ← List.head?_map]
  exact congrArg List.head? h

theorem head?_of_glimpse {ts us : List Token} (h : glimpse ts = glimpse us) :
    ts.head?.map Token.word = us.head?.map Token.word := by
  have hhead (ts : List Token) : (glimpse ts).map (·.1) = ts.head?.map Token.word := by
    cases ts <;> rfl
  rw [← hhead, ← hhead, h]

theorem head?_map_congr {β : Type} {f : Token → β} (hf : f.FactorsThrough Token.word)
    {ts us : List Token} (h : ts.head?.map Token.word = us.head?.map Token.word) :
    ts.head?.map f = us.head?.map f := by
  cases ts with
  | nil =>
    cases us with
    | nil => rfl
    | cons u us => contradiction
  | cons t ts =>
    cases us with
    | nil => contradiction
    | cons u us => exact congrArg some (hf (Option.some.inj h))

theorem opens_congr {p : Token → Bool} (hp : p.FactorsThrough Token.word) {ts us : List Token}
    (h : ts.head?.map Token.word = us.head?.map Token.word) : opens p ts = opens p us := by
  have hopens (ts : List Token) : opens p ts = (ts.head?.map p).getD false := by
    cases ts <;> rfl
  rw [hopens, hopens, head?_map_congr hp h]

theorem opens_of_glimpse {p : Token → Bool} (hp : p.FactorsThrough Token.word) {ts us : List Token}
    (h : glimpse ts = glimpse us) : opens p ts = opens p us :=
  opens_congr hp (head?_of_glimpse h)

theorem glimpse_append {pre pre' left left' : List Token} (hpre : words pre' = words pre)
    (hleft : glimpse left' = glimpse left) : glimpse (pre' ++ left') = glimpse (pre ++ left) := by
  cases pre with
  | nil =>
    obtain rfl : pre' = [] := List.map_eq_nil_iff.mp hpre
    exact hleft
  | cons t pre =>
    obtain ⟨t', pre', rfl, ht, hpre⟩ := exists_of_words_eq_cons hpre
    have hsign : t'.isPunct "-" = t.isPunct "-" := isPunct_factors "-" ht
    have hnext : (pre' ++ left').head?.map Token.word = (pre ++ left).head?.map Token.word := by
      rw [List.head?_append, List.head?_append, Option.map_or, Option.map_or, head?_of_words hpre,
        head?_of_glimpse hleft]
    rw [List.cons_append, List.cons_append, glimpse, glimpse, ht, hsign, hnext]

def Token.Written (t : Token) : Prop :=
  ∃ kind lexeme, lexeme? lexeme = some (some kind, lexeme.length) ∧
    (Token.ofLexeme kind lexeme 0).word = t.word

class Completable (α : Type) [Phrase α] : Prop where
  exists_written : ∃ a : α, ∀ t ∈ tokens a, t.Written

theorem completable_lexeme {p : Token → Bool} {t : Token} (ht : p t = true) (hw : t.Written) :
    Completable (Lexeme p) :=
  ⟨⟨⟨t, ht⟩, List.forall_mem_singleton.mpr hw⟩⟩

theorem completable_spelled {β : Type} {spells : β → Token → Prop} {b : β} {t : Token}
    (ht : spells b t) (hw : t.Written) : Completable (Spelled spells) :=
  ⟨⟨⟨b, t, ht⟩, List.forall_mem_singleton.mpr hw⟩⟩

instance {α γ : Type} [Phrase α] [Phrase γ] [Completable α] [Completable γ] :
    Completable (α × γ) := by
  obtain ⟨a, ha⟩ := Completable.exists_written (α := α)
  obtain ⟨c, hc⟩ := Completable.exists_written (α := γ)
  exact ⟨⟨(a, c), List.forall_mem_append.mpr ⟨ha, hc⟩⟩⟩

instance {α γ : Type} [Phrase α] [Phrase γ] [Completable γ] : Completable (α ⊕ γ) := by
  obtain ⟨c, hc⟩ := Completable.exists_written (α := γ)
  exact ⟨⟨.inr c, hc⟩⟩

instance {α : Type} [Phrase α] : Completable (Option α) :=
  ⟨⟨none, List.forall_mem_nil _⟩⟩

instance {α : Type} [Phrase α] : Completable (List α) :=
  ⟨⟨[], List.forall_mem_nil _⟩⟩

/-- Where the tokens are as told by `start`, the reader takes a phrase or fails behind tokens that
some phrase begins with and that can be completed to one. It does the same wherever it finds these
words and, next to them, what it has seen of the rest. The bound is on the number of tokens. -/
structure Pinpoints (α : Type) [Phrase α] {β : Type} (bound : Nat) (start : List Token → Bool)
    (read : Reader β) : Prop where
  ok : ∀ ts b rest, ts.length < bound → start ts = true → read ts = .ok (b, rest) →
    ∃ a : α, tokens a ++ rest = ts ∧ ∀ pre rest', words pre = words (tokens a) →
      glimpse rest' = glimpse rest → read (pre ++ rest') = .ok (b, rest')
  error : ∀ ts m, ts.length < bound → start ts = true → read ts = .error m →
    ∃ pre c, pre ++ m.left = ts ∧ (∃ a : α, tokens a = pre ++ c) ∧ (∀ t ∈ c, t.Written) ∧
      ∀ pre' left', words pre' = words pre → glimpse left' = glimpse m.left →
        ∃ m', read (pre' ++ left') = .error m'

namespace Pinpoints

variable {α β γ δ : Type} [Phrase α] [Phrase γ] {bound : Nat} {start : List Token → Bool}
  {read : Reader β}

theorem congr {read' : Reader β} (h : Pinpoints α bound start read)
    (hread : ∀ ts, read' ts = read ts) : Pinpoints α bound start read' := by
  rwa [funext hread]

theorem mono {small : Nat} (h : Pinpoints α bound start read) (hle : small ≤ bound) :
    Pinpoints α small start read :=
  ⟨fun ts b rest hlt => h.ok ts b rest (by omega), fun ts m hlt => h.error ts m (by omega)⟩

theorem below_zero : Pinpoints α 0 start read :=
  ⟨fun _ _ _ hlt => absurd hlt (Nat.not_lt_zero _), fun _ _ hlt => absurd hlt (Nat.not_lt_zero _)⟩

theorem guarded (h : Pinpoints α bound anywhere read) : Pinpoints α bound start read :=
  ⟨fun ts b rest hlt _ => h.ok ts b rest hlt rfl, fun ts m hlt _ => h.error ts m hlt rfl⟩

theorem transfer {α' : Type} [Phrase α'] (h : Pinpoints α bound start read) (f : α → α')
    (hf : ∀ a, tokens (f a) = tokens a) : Pinpoints α' bound start read := by
  constructor
  · intro ts b rest hlt hstart hread
    obtain ⟨a, ha, hsame⟩ := h.ok ts b rest hlt hstart hread
    rw [← hf a] at ha hsame
    exact ⟨f a, ha, hsame⟩
  · intro ts m hlt hstart hread
    obtain ⟨pre, c, hpre, ⟨a, ha⟩, hc, hfails⟩ := h.error ts m hlt hstart hread
    exact ⟨pre, c, hpre, ⟨f a, (hf a).trans ha⟩, hc, hfails⟩

theorem token [Completable α] {f : Token → Option β} (fail : List Token → Misfit)
    (hread : ∀ ts, read ts = (ts.head?.bind f).elim (.error (fail ts)) fun b => .ok (b, ts.tail))
    (hfail : ∀ ts, (fail ts).left = ts) (hf : f.FactorsThrough Token.word)
    (hphrase : ∀ t b, f t = some b → ∃ a : α, tokens a = [t]) :
    Pinpoints α bound anywhere read := by
  constructor
  · intro ts b rest _ _ h
    rw [hread] at h
    cases ts with
    | nil => contradiction
    | cons t ts =>
      cases hb : f t with
      | none => simp [hb] at h
      | some b' =>
        simp only [List.head?_cons, Option.bind_some, hb, Option.elim_some, List.tail_cons,
          Except.ok.injEq, Prod.mk.injEq] at h
        obtain ⟨rfl, rfl⟩ := h
        obtain ⟨a, ha⟩ := hphrase t b' hb
        refine ⟨a, by rw [ha]; rfl, ?_⟩
        intro pre rest hpre _
        rw [ha] at hpre
        obtain ⟨t', pre, rfl, ht, hpre⟩ := exists_of_words_eq_cons hpre
        obtain rfl : pre = [] := List.map_eq_nil_iff.mp hpre
        rw [hread, List.cons_append, List.head?_cons, Option.bind_some, hf ht, hb]
        rfl
  · intro ts m _ _ h
    have hnone : ts.head?.bind f = none := by
      rw [hread] at h
      cases hb : ts.head?.bind f with
      | none => rfl
      | some b => simp [hb] at h
    obtain rfl : m = fail ts := by
      rw [hread, hnone] at h
      exact (Except.error.inj h).symm
    obtain ⟨a, ha⟩ := Completable.exists_written (α := α)
    refine ⟨[], tokens a, hfail ts, ⟨a, rfl⟩, ha, ?_⟩
    intro pre' left' hpre hleft
    obtain rfl : pre' = [] := List.map_eq_nil_iff.mp hpre
    rw [hfail] at hleft
    refine ⟨fail left', ?_⟩
    have hjoin (ts : List Token) : ts.head?.bind f = (ts.head?.map f).join := by
      cases ts <;> rfl
    have hnone' : left'.head?.bind f = none := by
      rw [hjoin, head?_map_congr hf (head?_of_glimpse hleft), ← hjoin, hnone]
    rw [List.nil_append, hread, hnone']
    rfl

theorem refused [Completable α] {fail : List Token → Misfit} (hfail : ∀ ts, (fail ts).left = ts) :
    Pinpoints α bound anywhere fun ts => (.error (fail ts) : Except Misfit (β × List Token)) := by
  apply token (f := fun _ => none) fail _ hfail (fun _ _ _ => rfl)
  · intro t b hb
    contradiction
  · intro ts
    cases ts <;> rfl

theorem taken {p : Token → Bool} {v : Token → β} (hp : p.FactorsThrough Token.word)
    (hv : v.FactorsThrough Token.word)
    (hread : ∀ t ts, p t = true → read (t :: ts) = .ok (v t, ts)) :
    Pinpoints (Lexeme p) bound (opens p) read := by
  constructor
  · intro ts b rest _ hts h
    obtain ⟨t, ts, rfl, ht⟩ := exists_of_opens hts
    rw [hread t ts ht] at h
    cases h
    refine ⟨⟨t, ht⟩, rfl, ?_⟩
    intro pre rest' hpre _
    obtain ⟨t', pre, rfl, ht', hpre⟩ := exists_of_words_eq_cons hpre
    obtain rfl : pre = [] := List.map_eq_nil_iff.mp hpre
    rw [List.cons_append, hread t' _ ((hp ht').trans ht), hv ht']
    rfl
  · intro ts m _ hts h
    obtain ⟨t, ts, rfl, ht⟩ := exists_of_opens hts
    rw [hread t ts ht] at h
    contradiction

theorem nothing {b : β} (a : α) (ha : tokens a = []) (hread : ∀ ts, read ts = .ok (b, ts)) :
    Pinpoints α bound start read := by
  constructor
  · intro ts b' rest _ _ h
    rw [hread] at h
    cases h
    refine ⟨a, by rw [ha]; rfl, ?_⟩
    intro pre rest' hpre _
    rw [ha] at hpre
    obtain rfl : pre = [] := List.map_eq_nil_iff.mp hpre
    exact hread rest'
  · intro ts m _ _ h
    rw [hread] at h
    contradiction

theorem bindWithin [Completable γ] {k : β × List Token → Except Misfit (δ × List Token)}
    {small : Nat} (h : Pinpoints α bound start read)
    (hk : ∀ b, Pinpoints γ small anywhere fun ts => k (b, ts))
    (hsmall : ∀ a : α, bound ≤ small + (tokens a).length) :
    Pinpoints (α × γ) bound start fun ts => read ts >>= k := by
  constructor
  · intro ts d rest hlt hstart hread
    obtain ⟨⟨b, mid⟩, hb, hd⟩ := bind_eq_ok.mp hread
    obtain ⟨a, rfl, hsame⟩ := h.ok ts b mid hlt hstart hb
    have hle := hsmall a
    rw [List.length_append] at hlt
    obtain ⟨c, rfl, hsame'⟩ := (hk b).ok mid d rest (by omega) rfl hd
    refine ⟨(a, c), by rw [tokens_pair, List.append_assoc], ?_⟩
    intro pre rest' hpre hrest
    obtain ⟨us, vs, rfl, hus, hvs⟩ := exists_of_words_eq_append hpre
    have hfirst := hsame us (vs ++ rest') hus (glimpse_append hvs hrest)
    rw [List.append_assoc]
    exact bind_eq_ok.mpr ⟨_, hfirst, hsame' vs rest' hvs hrest⟩
  · intro ts m hlt hstart hread
    rcases bind_eq_error.mp hread with hread | ⟨⟨b, mid⟩, hb, hd⟩
    · obtain ⟨pre, c, hpre, ⟨a, ha⟩, hc, hfails⟩ := h.error ts m hlt hstart hread
      -- the second phrase was never begun: any that can be written will do
      obtain ⟨g, hg⟩ := Completable.exists_written (α := γ)
      refine ⟨pre, c ++ tokens g, hpre, ⟨(a, g), ?_⟩, List.forall_mem_append.mpr ⟨hc, hg⟩, ?_⟩
      · rw [tokens_pair, ha, List.append_assoc]
      · intro pre' left' hpre' hleft
        obtain ⟨m', hm⟩ := hfails pre' left' hpre' hleft
        exact ⟨m', bind_eq_error.mpr (.inl hm)⟩
    · obtain ⟨a, rfl, hsame⟩ := h.ok ts b mid hlt hstart hb
      have hle := hsmall a
      rw [List.length_append] at hlt
      obtain ⟨pre, c, rfl, ⟨g, hg⟩, hc, hfails⟩ := (hk b).error mid m (by omega) rfl hd
      refine ⟨tokens a ++ pre, c, List.append_assoc .., ⟨(a, g), ?_⟩, hc, ?_⟩
      · rw [tokens_pair, hg, List.append_assoc]
      · intro pre' left' hpre' hleft
        obtain ⟨us, vs, rfl, hus, hvs⟩ := exists_of_words_eq_append hpre'
        obtain ⟨m', hm⟩ := hfails vs left' hvs hleft
        have hfirst := hsame us (vs ++ left') hus (glimpse_append hvs hleft)
        rw [List.append_assoc]
        exact ⟨m', bind_eq_error.mpr (.inr ⟨_, hfirst, hm⟩)⟩

theorem bind [Completable γ] {k : β × List Token → Except Misfit (δ × List Token)}
    (h : Pinpoints α bound start read)
    (hk : ∀ b, Pinpoints γ bound anywhere fun ts => k (b, ts)) :
    Pinpoints (α × γ) bound start fun ts => read ts >>= k :=
  h.bindWithin hk fun _ => Nat.le_add_right _ _

theorem map {k : β × List Token → Except Misfit (δ × List Token)}
    (h : Pinpoints α bound start read) (hk : ∀ b, ∃ d, ∀ ts, k (b, ts) = .ok (d, ts)) :
    Pinpoints α bound start fun ts => read ts >>= k := by
  constructor
  · intro ts d rest hlt hstart hread
    obtain ⟨⟨b, mid⟩, hb, hd⟩ := bind_eq_ok.mp hread
    obtain ⟨a, ha, hsame⟩ := h.ok ts b mid hlt hstart hb
    obtain ⟨d', hk⟩ := hk b
    rw [hk] at hd
    cases hd
    refine ⟨a, ha, fun pre rest' hpre hrest => ?_⟩
    exact bind_eq_ok.mpr ⟨_, hsame pre rest' hpre hrest, hk rest'⟩
  · intro ts m hlt hstart hread
    rcases bind_eq_error.mp hread with hread | ⟨⟨b, mid⟩, _, hd⟩
    · obtain ⟨pre, c, hpre, ha, hc, hfails⟩ := h.error ts m hlt hstart hread
      refine ⟨pre, c, hpre, ha, hc, fun pre' left' hpre' hleft => ?_⟩
      obtain ⟨m', hm⟩ := hfails pre' left' hpre' hleft
      exact ⟨m', bind_eq_error.mpr (.inl hm)⟩
    · obtain ⟨d, hk⟩ := hk b
      rw [hk] at hd
      contradiction

theorem choice {other : Reader β} (h : Pinpoints α bound start read)
    (h' : Pinpoints γ bound anywhere other)
    (hstart : ∀ ts us, glimpse ts = glimpse us → start ts = start us) :
    Pinpoints (α ⊕ γ) bound anywhere fun ts => if start ts then read ts else other ts := by
  constructor
  · intro ts b rest hlt _ hread
    split at hread
    · next hts =>
      obtain ⟨a, rfl, hsame⟩ := h.ok ts b rest hlt hts hread
      refine ⟨.inl a, rfl, fun pre rest' hpre hrest => ?_⟩
      rw [tokens_inl] at hpre
      rw [hstart _ _ (glimpse_append hpre hrest), if_pos hts]
      exact hsame pre rest' hpre hrest
    · next hts =>
      obtain ⟨c, rfl, hsame⟩ := h'.ok ts b rest hlt rfl hread
      refine ⟨.inr c, rfl, fun pre rest' hpre hrest => ?_⟩
      rw [tokens_inr] at hpre
      rw [hstart _ _ (glimpse_append hpre hrest), if_neg hts]
      exact hsame pre rest' hpre hrest
  · intro ts m hlt _ hread
    split at hread
    · next hts =>
      obtain ⟨pre, c, rfl, ⟨a, ha⟩, hc, hfails⟩ := h.error ts m hlt hts hread
      refine ⟨pre, c, rfl, ⟨.inl a, ha⟩, hc, fun pre' left' hpre hleft => ?_⟩
      rw [hstart _ _ (glimpse_append hpre hleft), if_pos hts]
      exact hfails pre' left' hpre hleft
    · next hts =>
      obtain ⟨pre, c, rfl, ⟨g, hg⟩, hc, hfails⟩ := h'.error ts m hlt rfl hread
      refine ⟨pre, c, rfl, ⟨.inr g, hg⟩, hc, fun pre' left' hpre hleft => ?_⟩
      rw [hstart _ _ (glimpse_append hpre hleft), if_neg hts]
      exact hfails pre' left' hpre hleft

section

variable {p : Token → Bool}

theorem after {small : Nat} (h : Pinpoints α bound anywhere read) (hle : small ≤ bound + 1) :
    Pinpoints (Lexeme p × α) small (opens p) fun ts => read ts.tail := by
  constructor
  · intro ts b rest hlt hts hread
    obtain ⟨t, ts, rfl, ht⟩ := exists_of_opens hts
    rw [List.length_cons] at hlt
    obtain ⟨a, rfl, hsame⟩ := h.ok ts b rest (by omega) rfl hread
    refine ⟨(⟨t, ht⟩, a), rfl, fun pre rest' hpre hrest => ?_⟩
    obtain ⟨t', pre, rfl, _, hpre⟩ := exists_of_words_eq_cons hpre
    exact hsame pre rest' hpre hrest
  · intro ts m hlt hts hread
    obtain ⟨t, ts, rfl, ht⟩ := exists_of_opens hts
    rw [List.length_cons] at hlt
    obtain ⟨pre, c, rfl, ⟨a, ha⟩, hc, hfails⟩ := h.error ts m (by omega) rfl hread
    refine ⟨t :: pre, c, rfl, ⟨(⟨t, ht⟩, a), ?_⟩, hc, fun pre' left' hpre' hleft => ?_⟩
    · rw [tokens_pair, ha]
      rfl
    · obtain ⟨t', pre', rfl, _, hpre'⟩ := exists_of_words_eq_cons hpre'
      exact hfails pre' left' hpre' hleft

variable (hp : p.FactorsThrough Token.word)
include hp

theorem option (h : Pinpoints α bound (opens p) read) :
    Pinpoints (Option α) bound anywhere (readIf (opens p) read) := by
  have hsome := h.map (k := fun x => .ok (some x.1, x.2)) fun b => ⟨some b, fun _ => rfl⟩
  have hnone : Pinpoints (Option α) bound anywhere fun ts => .ok ((none : Option β), ts) :=
    nothing none rfl fun _ => rfl
  apply (hsome.choice hnone fun _ _ => opens_of_glimpse hp).transfer (Sum.elim some id)
  rintro (a | o) <;> rfl

theorem announced (h : Pinpoints α bound anywhere read) :
    Pinpoints (Option (Lexeme p × α)) bound anywhere (readAfter (opens p) read) :=
  (h.after (Nat.le_succ bound)).option hp

theorem many (h : Pinpoints α bound (opens p) read)
    (hread : ∀ ts b rest, opens p ts = true → read ts = .ok (b, rest) → rest.length < ts.length)
    (hne : ∀ a : α, tokens a ≠ []) :
    Pinpoints (List α) bound anywhere (readMany (opens p) read) := by
  -- What follows an item is read from fewer tokens, so that the induction is on the bound.
  induction bound with
  | zero => exact below_zero
  | succ bound ih =>
    have hrest (b : β) : Pinpoints (List α) bound anywhere fun ts =>
        readMany (opens p) read ts >>= fun x => .ok (b :: x.1, x.2) :=
      (ih (h.mono (Nat.le_succ bound))).map fun bs => ⟨b :: bs, fun _ => rfl⟩
    have hsmall (a : α) : bound + 1 ≤ bound + (tokens a).length := by
      have := List.length_pos_iff.mpr (hne a)
      omega
    have hcons := h.bindWithin
      (k := fun x => readMany (opens p) read x.2 >>= fun y => .ok (x.1 :: y.1, y.2)) hrest hsmall
    have hnil : Pinpoints (List α) (bound + 1) anywhere fun ts => .ok (([] : List β), ts) :=
      nothing [] rfl fun _ => rfl
    have hchoice := hcons.choice hnil fun _ _ => opens_of_glimpse hp
    apply (hchoice.transfer (Sum.elim (fun x => x.1 :: x.2) id) _).congr (readMany_eq hread)
    rintro (⟨a, as⟩ | as) <;> rfl

theorem manyAfter (h : Pinpoints α bound anywhere read)
    (hread : ∀ ts b rest, read ts = .ok (b, rest) → rest.length ≤ ts.length) :
    Pinpoints (List (Lexeme p × α)) bound anywhere (readMany (opens p) fun ts => read ts.tail) :=
  (h.after (Nat.le_succ bound)).many hp (length_lt_of_opens hread) fun _ => List.cons_ne_nil _ _

theorem separated (h : Pinpoints α bound anywhere read)
    (hread : ∀ ts b rest, read ts = .ok (b, rest) → rest.length ≤ ts.length) :
    Pinpoints (α × List (Lexeme p × α)) bound anywhere (readSeparated (opens p) read) := by
  apply h.bind
  intro b
  exact (h.manyAfter hp hread).map fun bs => ⟨b :: bs, fun _ => rfl⟩

theorem someAfter [Completable (Lexeme p)] [Completable α] [Completable γ]
    {k : List β × List Token → Except Misfit (δ × List Token)} {fail : List Token → Misfit}
    (h : Pinpoints α bound anywhere read)
    (hread : ∀ ts b rest, read ts = .ok (b, rest) → rest.length ≤ ts.length)
    (hnil : ∀ ts, k ([], ts) = .error (fail ts)) (hfail : ∀ ts, (fail ts).left = ts)
    (hk : ∀ b bs, Pinpoints γ bound anywhere fun ts => k (b :: bs, ts)) :
    Pinpoints (((Lexeme p × α) × List (Lexeme p × α)) × γ) bound anywhere fun ts =>
      readMany (opens p) (fun ts => read ts.tail) ts >>= k := by
  have hrest (b : β) : Pinpoints (List (Lexeme p × α) × γ) bound anywhere fun ts =>
      readMany (opens p) (fun ts => read ts.tail) ts >>= fun x => k (b :: x.1, x.2) :=
    (h.manyAfter hp hread).bind (hk b)
  have hsome := (h.after (p := p) (Nat.le_succ bound)).bind
    (k := fun x => readMany (opens p) (fun ts => read ts.tail) x.2 >>= fun y => k (x.1 :: y.1, y.2))
    hrest
  have hnone : Pinpoints (((Lexeme p × α) × List (Lexeme p × α)) × γ) bound anywhere fun ts =>
      (.error (fail ts) : Except Misfit (δ × List Token)) :=
    refused hfail
  have hchoice := hsome.choice hnone fun _ _ => opens_of_glimpse hp
  apply (hchoice.transfer (Sum.elim (fun x => ((x.1, x.2.1), x.2.2)) id) _).congr
  · intro ts
    rw [readMany_eq (length_lt_of_opens hread)]
    split
    · rw [bind_assoc]
      apply bind_congr_ok
      rintro ⟨b, rest⟩ _
      exact bind_assoc ..
    · exact hnil ts
  · rintro (⟨a, as, g⟩ | x)
    · exact List.append_assoc ..
    · rfl

end

end Pinpoints

end PageGraph.Query
