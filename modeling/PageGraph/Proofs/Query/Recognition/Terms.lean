import PageGraph.Proofs.Query.Grammar
import PageGraph.Proofs.Query.Reads

namespace PageGraph.Query

open Phrase

variable {bound : Nat}

theorem kind_of_isPunct {t : Token} {p : String} (h : t.isPunct p = true) : t.kind = .punct := by
  rw [Token.isPunct, Bool.and_eq_true] at h
  exact of_decide_eq_true h.1

theorem kind_of_isKeyword {t : Token} {word : String} (h : t.isKeyword word = true) :
    t.kind = .ident := by
  rw [Token.isKeyword, Bool.and_eq_true] at h
  exact of_decide_eq_true h.1

theorem isPunct_of_kind {t : Token} (h : t.kind ≠ .punct) (p : String) : t.isPunct p = false := by
  rw [Token.isPunct, decide_eq_false h, Bool.false_and]

theorem isPunct_of_isKeyword {t : Token} {word : String} (h : t.isKeyword word = true)
    (p : String) : t.isPunct p = false := by
  apply isPunct_of_kind
  rw [kind_of_isKeyword h]
  decide

theorem isKeyword_of_isPunct {t : Token} {p : String} (h : t.isPunct p = true) (word : String) :
    t.isKeyword word = false := by
  rw [Token.isKeyword, kind_of_isPunct h]
  rfl

theorem isKind_of_isPunct {t : Token} {p : String} (h : t.isPunct p = true) {kind : TokenKind}
    (hkind : kind ≠ .punct) : isKind kind t = false := by
  rw [isKind, kind_of_isPunct h]
  exact decide_eq_false hkind.symm

theorem isPunct_eq_false {t : Token} {p q : String} (h : t.isPunct p = true) (hpq : p ≠ q) :
    t.isPunct q = false := by
  rw [Token.isPunct, Bool.and_eq_true] at h
  rw [Token.isPunct, of_decide_eq_true h.2, decide_eq_false hpq, Bool.and_false]

theorem isKeyword_eq_false {t : Token} {v w : String} (h : t.isKeyword v = true)
    (hvw : Text.asciiLower v ≠ Text.asciiLower w) : t.isKeyword w = false := by
  rw [Token.isKeyword, Text.sameIgnoringCase, Bool.and_eq_true] at h
  rw [Token.isKeyword, Text.sameIgnoringCase, of_decide_eq_true h.2, decide_eq_false hvw,
    Bool.and_false]

theorem reads_mark {p : Token → Bool} {read : Reader Unit} {fail : List Token → Misfit}
    (hread : ∀ ts, read ts = if opens p ts then .ok ((), ts.tail) else .error (fail ts)) :
    Reads bound anywhere read (fun _ : Lexeme p => ()) never := by
  have h : Reads bound (opens p) read (fun _ : Lexeme p => ()) never := by
    apply Reads.lexeme (v := fun _ => ())
    intro t ts ht
    rw [hread, opens_cons, ht]
    rfl
  apply h.unguarded
  intro ts x hx
  rw [hread] at hx
  split at hx
  · next hts => exact hts
  · contradiction

theorem reads_punct (p : String) :
    Reads bound anywhere (readPunct p) (fun _ : Punct p => ()) never :=
  reads_mark fun _ => rfl

theorem reads_keyword (word : String) :
    Reads bound anywhere (readKeyword word) (fun _ : Keyword word => ()) never :=
  reads_mark fun _ => rfl

theorem reads_kind (kind : TokenKind) (what : String) :
    Reads bound anywhere (readKind kind what) (fun t : OfKind kind => t.1.text) never := by
  have h : Reads bound (opens (isKind kind)) (readKind kind what)
      (fun t : OfKind kind => t.1.text) never := by
    apply Reads.lexeme (v := Token.text)
    intro t ts ht
    rw [readKind, if_pos (of_decide_eq_true ht)]
  apply h.unguarded
  intro ts x hx
  cases ts with
  | nil => contradiction
  | cons t ts =>
    rw [readKind] at hx
    split at hx
    · next ht => exact decide_eq_true ht
    · contradiction

theorem reads_ident : Reads bound anywhere readIdent (fun t : Ident => t.1.text) never :=
  reads_kind .ident "identifier"

theorem reads_punct_option (p : String) :
    Reads bound anywhere (readIf (startsPunct p) (readPunct p))
      (Option.map fun _ : Punct p => ()) (fun t => t.isPunct p) :=
  (reads_punct p).optionFrom fun t _ => t.2

theorem reads_ident_option :
    Reads bound anywhere (readIf (startsKind .ident) readIdent)
      (Option.map fun t : Ident => t.1.text) (isKind .ident) :=
  reads_ident.optionFrom fun t _ => t.2

theorem integer_eq_some {β : Type} (value? : String → Option β) (t : Token) (n : β) :
    (if t.kind = .number then value? t.text else none) = some n ↔
      t.kind = .number ∧ value? t.text = some n := by
  split
  · next hkind => simp [hkind]
  · next hkind => simp [hkind]

theorem reads_integer {β : Type} (value? : String → Option β) :
    Reads bound anywhere (readInteger value?) (fun n : Integer value? => n.meaning) never := by
  apply Reads.spelled (integer_eq_some value?)
  · intro t ts n ht
    obtain ⟨hkind, hn⟩ := (integer_eq_some value? t n).mp ht
    rw [readInteger, readKind, if_pos hkind]
    simp only [bind, Except.bind, hn]
    rfl
  · rintro ts ⟨n, rest⟩ hread
    obtain ⟨⟨text, ts'⟩, hkind, hread⟩ := bind_eq_ok.mp hread
    obtain ⟨t, rfl, rfl⟩ := (@reads_kind bound .number "integer").sound ts _ _ rfl hkind
    cases hn : value? t.1.text with
    | none =>
      simp only [hn] at hread
      contradiction
    | some n =>
      have ht := (integer_eq_some value? t.1 n).mpr ⟨of_decide_eq_true t.2, hn⟩
      exact Option.isSome_of_eq_some ht

theorem reads_integer_option {β : Type} (value? : String → Option β) :
    Reads bound anywhere (readIf (startsKind .number) (readInteger value?))
      (Option.map fun n : Integer value? => n.meaning) (isKind .number) :=
  (reads_integer value?).optionFrom fun n _ => decide_eq_true n.isSpelled.1

theorem reads_spelled {β : Type} {spells : β → Token → Prop} {f : Token → Option β}
    {read : Reader β} (fail : List Token → Misfit) (hf : ∀ t b, f t = some b ↔ spells b t)
    (hread : ∀ ts,
      read ts = (ts.head?.bind f).elim (.error (fail ts)) fun b => .ok (b, ts.tail)) :
    Reads bound anywhere read (fun s : Spelled spells => s.meaning) never := by
  apply Reads.spelled hf
  · intro t ts b hb
    rw [hread, List.head?_cons, Option.bind_some, hb]
    rfl
  · intro ts x hx
    rw [hread] at hx
    cases ts with
    | nil => contradiction
    | cons t ts =>
      rw [opens_cons]
      cases hb : f t with
      | none =>
        rw [List.head?_cons, Option.bind_some, hb] at hx
        contradiction
      | some b => rfl

theorem kind_of_isSpelled {t : Token} {v : Value} (h : v.IsSpelled t) : t.kind ≠ .punct := by
  rcases v with s | literal | (_ | _) | _
  · simp [h.1]
  · simp [h.1]
  · simp [kind_of_isKeyword h]
  · simp [kind_of_isKeyword h]
  · simp [kind_of_isKeyword h]

theorem valueOfToken?_eq_some (t : Token) (v : Value) :
    valueOfToken? t = some v ↔ v.IsSpelled t := by
  have htrue (h : t.isKeyword "TRUE" = true) : t.isKeyword "NULL" = false :=
    isKeyword_eq_false h (by decide)
  have hfalse (h : t.isKeyword "FALSE" = true) :
      t.isKeyword "NULL" = false ∧ t.isKeyword "TRUE" = false :=
    ⟨isKeyword_eq_false h (by decide), isKeyword_eq_false h (by decide)⟩
  rcases v with s | literal | (_ | _) | _
  all_goals grind [valueOfToken?, Value.IsSpelled, Token.isKeyword]

theorem reads_literal :
    Reads bound anywhere
      (fun ts => (ts.head?.bind valueOfToken?).elim (.error (misfit "value" ts)) fun v =>
        .ok (v, ts.tail))
      (fun s : Spelled Value.IsSpelled => s.meaning) never :=
  reads_spelled (misfit "value") valueOfToken?_eq_some fun _ => rfl

theorem reads_negative :
    Reads bound isNegative
      (fun ts => .ok (Value.number ("-" ++ (ts.tail.head?.map (·.text)).getD ""), ts.tail.tail))
      (fun x : Punct "-" × OfKind .number => Value.number ("-" ++ x.2.1.text)) never := by
  refine ⟨?_, ?_, ?_, ?_⟩
  · rintro ⟨⟨sign, hsign⟩, ⟨number, hnumber⟩⟩ rest
    change (sign.isPunct "-" && decide (number.kind = .number)) = true
    rw [Bool.and_eq_true]
    exact ⟨hsign, hnumber⟩
  · intro ts b rest hts hread
    match ts, hts with
    | sign :: number :: ts, hts =>
      rw [isNegative, Bool.and_eq_true] at hts
      cases hread
      exact ⟨(⟨sign, hts.1⟩, ⟨number, hts.2⟩), rfl, rfl⟩
  · intro _ _ _ _
    rfl
  · rintro ⟨sign, number⟩ ⟨sign', number'⟩ _ heq
    obtain ⟨hsign, heq⟩ := List.cons.inj heq
    obtain rfl := Subtype.ext hsign
    obtain rfl := Subtype.ext (List.cons.inj heq).1
    rfl

theorem reads_value : Reads bound anywhere readValue ValuePhrase.value never := by
  have hliteral (s : Spelled Value.IsSpelled) (rest : List Token) :
      isNegative (tokens s ++ rest) = false := by
    have hsign := isPunct_of_kind (kind_of_isSpelled s.isSpelled) "-"
    cases rest with
    | nil => rfl
    | cons t rest => simp [isNegative, hsign]
  have hvalue : Sum.elim (fun x => Value.number ("-" ++ x.2.1.text)) Spelled.meaning =
      ValuePhrase.value := by
    funext v
    cases v <;> rfl
  rw [← hvalue]
  apply (reads_negative.choice reads_literal hliteral).settle.congr
  intro ts
  rw [readValue]
  cases ts.head?.bind valueOfToken? <;> rfl

theorem reads_entity_of {p : Token → Bool} (hp : ∀ t, p t = true → isKind .ident t = true) :
    Reads bound (opens p) readEntity (fun e : EntityPhrase p => e.entity)
      (fun t => t.isPunct ".") := by
  have hvar : Reads bound (opens p) readIdent (fun t : Lexeme p => t.1.text) never := by
    apply Reads.lexeme (v := Token.text)
    intro t ts ht
    rw [readIdent, readKind, if_pos (of_decide_eq_true (hp t ht))]
  apply Reads.settle
  apply hvar.bind
  · intro var
    apply reads_ident.announced.map
    intro property ts
    rfl
  · intro _ _ _
    exact opens_never _

theorem reads_entity :
    Reads bound anywhere readEntity (fun e : EntityPhrase (isKind .ident) => e.entity)
      (fun t => t.isPunct ".") := by
  apply (reads_entity_of fun _ h => h).unguarded
  intro ts x hread
  obtain ⟨⟨var, rest⟩, hvar, _⟩ := bind_eq_ok.mp hread
  obtain ⟨t, rfl, _⟩ := (@reads_ident bound).sound ts var rest rfl hvar
  exact t.2

end PageGraph.Query
