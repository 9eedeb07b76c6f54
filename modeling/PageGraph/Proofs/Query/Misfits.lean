import PageGraph.Proofs.Query.Pinpoints
import PageGraph.Proofs.Query.Recognition

namespace PageGraph.Query

open Phrase

variable {bound : Nat}

theorem isKeyword_factors (word : String) :
    Function.FactorsThrough (fun t : Token => t.isKeyword word) Token.word :=
  factors_word fun _ _ _ => rfl

theorem isKind_factors (kind : TokenKind) : (isKind kind).FactorsThrough Token.word :=
  factors_word fun _ _ _ => rfl

theorem isEdgeStart_factors : isEdgeStart.FactorsThrough Token.word :=
  factors_word fun _ _ _ => rfl

theorem isReference_factors : isReference.FactorsThrough Token.word :=
  factors_word fun _ _ _ => rfl

theorem isNegative_of_glimpse {ts us : List Token} (h : glimpse ts = glimpse us) :
    isNegative ts = isNegative us := by
  have hcons (t : Token) (ts : List Token) :
      isNegative (t :: ts) = (t.isPunct "-" && opens (isKind .number) ts) := by
    cases ts with
    | nil => exact (Bool.and_false _).symm
    | cons u ts => rfl
  cases ts with
  | nil =>
    cases us with
    | nil => rfl
    | cons u us => contradiction
  | cons t ts =>
    cases us with
    | nil => contradiction
    | cons u us =>
      rw [glimpse, glimpse, Option.some.injEq, Prod.mk.injEq] at h
      obtain ⟨hword, hnext⟩ := h
      have hsign : t.isPunct "-" = u.isPunct "-" := isPunct_factors "-" hword
      rw [hcons, hcons, hsign]
      rw [hsign] at hnext
      cases hu : u.isPunct "-" with
      | false => rfl
      | true =>
        rw [hu, if_pos rfl, if_pos rfl] at hnext
        rw [opens_congr (isKind_factors .number) hnext]

theorem written_plain {kind : TokenKind} {text : String} (hkind : kind ≠ .str)
    (h : lexeme? text.toList = some (some kind, text.toList.length)) :
    Token.Written ⟨kind, text, 0⟩ := by
  refine ⟨kind, text.toList, h, ?_⟩
  cases kind with
  | str => contradiction
  | ident | number | punct => simp [Token.ofLexeme, Token.word]

theorem completable_punct {p : String}
    (h : lexeme? p.toList = some (some .punct, p.toList.length)) : Completable (Punct p) :=
  completable_lexeme (t := ⟨.punct, p, 0⟩) (by simp [Token.isPunct]) (written_plain (by decide) h)

theorem completable_keyword {word : String}
    (h : lexeme? word.toList = some (some .ident, word.toList.length)) :
    Completable (Keyword word) :=
  completable_lexeme (t := ⟨.ident, word, 0⟩) (by simp [Token.isKeyword, Text.sameIgnoringCase])
    (written_plain (by decide) h)

instance : Completable (Punct "(") := completable_punct (by decide)

instance : Completable (Punct ")") := completable_punct (by decide)

instance : Completable (Punct "\x7d") := completable_punct (by decide)

instance : Completable (Punct "]") := completable_punct (by decide)

instance : Completable (Punct ":") := completable_punct (by decide)

instance : Completable (Punct "-") := completable_punct (by decide)

instance : Completable (Punct "<") := completable_punct (by decide)

instance : Completable (Punct ">") := completable_punct (by decide)

instance : Completable (Keyword "MATCH") := completable_keyword (by decide)

instance : Completable (Keyword "RETURN") := completable_keyword (by decide)

instance : Completable Ident :=
  completable_lexeme (t := ⟨.ident, "a", 0⟩) rfl (written_plain (by decide) (by decide))

instance : Completable (OfKind .str) :=
  completable_lexeme (t := ⟨.str, "", 0⟩) rfl ⟨.str, ['"', '"'], by decide, rfl⟩

theorem written_one : Token.Written ⟨.number, "1", 0⟩ :=
  written_plain (by decide) (by decide)

instance : Completable (Integer Numeral.readUInt32?) :=
  completable_spelled (b := 1) ⟨rfl, by decide⟩ written_one

instance : Completable (Integer Numeral.readUInt64?) :=
  completable_spelled (b := 1) ⟨rfl, by decide⟩ written_one

instance : Completable (Spelled Value.IsSpelled) :=
  completable_spelled (b := .number "1") ⟨rfl, rfl⟩ written_one

instance : Completable (Spelled Operator.IsSpelled) :=
  completable_spelled (b := .eq) (t := ⟨.punct, "=", 0⟩) (.inl (by decide))
    (written_plain (by decide) (by decide))

theorem pinpoints_mark {p : Token → Bool} [Completable (Lexeme p)] {read : Reader Unit}
    {fail : List Token → Misfit} (hp : p.FactorsThrough Token.word)
    (hread : ∀ ts, read ts = if opens p ts then .ok ((), ts.tail) else .error (fail ts))
    (hfail : ∀ ts, (fail ts).left = ts) : Pinpoints (Lexeme p) bound anywhere read := by
  apply Pinpoints.token (f := fun t => if p t then some () else none) fail _ hfail
  · intro t u h
    simp only [hp h]
  · intro t b hb
    split at hb
    · next ht => exact ⟨⟨t, ht⟩, rfl⟩
    · contradiction
  · intro ts
    rw [hread]
    cases ts with
    | nil => rfl
    | cons t ts =>
      rw [opens_cons, List.head?_cons, Option.bind_some]
      split <;> rfl

theorem pinpoints_punct (p : String) [Completable (Punct p)] :
    Pinpoints (Punct p) bound anywhere (readPunct p) :=
  pinpoints_mark (isPunct_factors p) (fun _ => rfl) fun _ => rfl

theorem pinpoints_keyword (word : String) [Completable (Keyword word)] :
    Pinpoints (Keyword word) bound anywhere (readKeyword word) :=
  pinpoints_mark (isKeyword_factors word) (fun _ => rfl) fun _ => rfl

theorem pinpoints_kind (kind : TokenKind) (what : String) [Completable (OfKind kind)] :
    Pinpoints (OfKind kind) bound anywhere (readKind kind what) := by
  apply Pinpoints.token (f := fun t => if t.kind = kind then some t.text else none) (misfit what)
  · intro ts
    cases ts with
    | nil => rfl
    | cons t ts =>
      rw [readKind, List.head?_cons, Option.bind_some]
      split <;> rfl
  · intro ts
    rfl
  · exact factors_word fun _ _ _ => rfl
  · intro t b hb
    split at hb
    · next ht => exact ⟨⟨t, decide_eq_true ht⟩, rfl⟩
    · contradiction

theorem pinpoints_ident : Pinpoints Ident bound anywhere readIdent :=
  pinpoints_kind .ident "identifier"

theorem pinpoints_integer {β : Type} (value? : String → Option β) [Completable (Integer value?)] :
    Pinpoints (Integer value?) bound anywhere (readInteger value?) := by
  apply Pinpoints.token (f := fun t => if t.kind = .number then value? t.text else none)
    (fun ts => if opens (isKind .number) ts then
      ⟨.notAnInteger ((ts.head?.map (·.text)).getD ""), ts⟩ else misfit "integer" ts)
  · intro ts
    cases ts with
    | nil => rfl
    | cons t ts =>
      rw [readInteger, readKind, List.head?_cons, Option.bind_some, opens_cons]
      by_cases ht : t.kind = .number
      · have hkind : isKind .number t = true := decide_eq_true ht
        rw [if_pos ht, if_pos ht, hkind]
        cases hn : value? t.text with
        | none => simp [bind, Except.bind, hn]
        | some n =>
          simp only [bind, Except.bind, hn]
          rfl
      · have hkind : isKind .number t = false := decide_eq_false ht
        rw [if_neg ht, if_neg ht, hkind]
        rfl
  · intro ts
    split <;> rfl
  · exact factors_word fun _ _ _ => rfl
  · intro t n hn
    exact ⟨⟨n, t, (integer_eq_some value? t n).mp hn⟩, rfl⟩

theorem pinpoints_spelled {β : Type} {spells : β → Token → Prop} [Completable (Spelled spells)]
    {f : Token → Option β} {read : Reader β} (what : String)
    (hf : ∀ t b, f t = some b ↔ spells b t) (hfactors : f.FactorsThrough Token.word)
    (hread : ∀ ts, read ts =
      (ts.head?.bind f).elim (.error (misfit what ts)) fun b => .ok (b, ts.tail)) :
    Pinpoints (Spelled spells) bound anywhere read := by
  apply Pinpoints.token (misfit what) hread (fun _ => rfl) hfactors
  intro t b hb
  exact ⟨⟨b, t, (hf t b).mp hb⟩, rfl⟩

theorem pinpoints_negative :
    Pinpoints (Punct "-" × OfKind .number) bound isNegative fun ts =>
      .ok (Value.number ("-" ++ (ts.tail.head?.map (·.text)).getD ""), ts.tail.tail) := by
  constructor
  · intro ts v rest _ hts h
    match ts, hts with
    | sign :: number :: ts, hts =>
      rw [isNegative, Bool.and_eq_true] at hts
      cases h
      refine ⟨(⟨sign, hts.1⟩, ⟨number, hts.2⟩), rfl, ?_⟩
      intro pre rest' hpre _
      obtain ⟨sign', pre, rfl, _, hpre⟩ := exists_of_words_eq_cons hpre
      obtain ⟨number', pre, rfl, hnumber, hpre⟩ := exists_of_words_eq_cons hpre
      obtain rfl : pre = [] := List.map_eq_nil_iff.mp hpre
      have htext : number'.text = number.text := (Prod.ext_iff.mp hnumber).2
      simp [htext]
  · intro ts m _ _ h
    contradiction

theorem pinpoints_value : Pinpoints ValuePhrase bound anywhere readValue := by
  have hliteral : Pinpoints (Spelled Value.IsSpelled) bound anywhere fun ts =>
      (ts.head?.bind valueOfToken?).elim (.error (misfit "value" ts)) fun v => .ok (v, ts.tail) :=
    pinpoints_spelled "value" valueOfToken?_eq_some (factors_word fun _ _ _ => rfl) fun _ => rfl
  apply (pinpoints_negative.choice hliteral fun _ _ => isNegative_of_glimpse).congr
  intro ts
  rw [readValue]
  cases ts.head?.bind valueOfToken? <;> rfl

theorem pinpoints_operator : Pinpoints (Spelled Operator.IsSpelled) bound anywhere readOperator := by
  apply pinpoints_spelled "comparison operator" operatorOfToken?_eq_some
  · exact factors_word fun _ _ _ => rfl
  · intro ts
    rw [readOperator]
    cases ts.head?.bind operatorOfToken? <;> rfl

theorem pinpoints_entity_of {p : Token → Bool} {start : List Token → Bool}
    (h : Pinpoints (Lexeme p) bound start readIdent) :
    Pinpoints (EntityPhrase p) bound start readEntity := by
  apply h.bind
  intro var
  exact (pinpoints_ident.announced (isPunct_factors ".")).map fun property => ⟨_, fun _ => rfl⟩

theorem pinpoints_entity : Pinpoints (EntityPhrase (isKind .ident)) bound anywhere readEntity :=
  pinpoints_entity_of pinpoints_ident

theorem pinpoints_operand : Pinpoints OperandPhrase bound anywhere readOperand := by
  have hvar : Pinpoints (Lexeme isReference) bound (opens isReference) readIdent := by
    apply Pinpoints.taken (v := Token.text) isReference_factors
    · exact factors_word fun _ _ _ => rfl
    · intro t ts ht
      rw [readIdent, readKind, if_pos ((isReference_iff t).mp ht).1]
  have hentity := (pinpoints_entity_of hvar).map (k := fun x => .ok (Operand.entity x.1, x.2))
    fun e => ⟨.entity e, fun _ => rfl⟩
  have hvalue := (@pinpoints_value bound).map (k := fun x => .ok (Operand.value x.1, x.2))
    fun v => ⟨.value v, fun _ => rfl⟩
  have hchoice := hentity.choice hvalue fun _ _ => opens_of_glimpse isReference_factors
  rw [opens_isReference] at hchoice
  exact hchoice

theorem pinpoints_condition : Pinpoints ConditionPhrase bound anywhere readCondition := by
  apply pinpoints_entity.bind
  intro entity
  apply pinpoints_operator.bind
  intro op
  exact pinpoints_operand.map fun operand => ⟨_, fun _ => rfl⟩

theorem pinpoints_property : Pinpoints PropertyPhrase bound anywhere readProperty := by
  apply pinpoints_ident.bind
  intro key
  apply (pinpoints_punct ":").bind
  intro _
  exact pinpoints_value.map fun v => ⟨_, fun _ => rfl⟩

theorem pinpoints_properties :
    Pinpoints (Separated "," PropertyPhrase × Punct "\x7d") bound anywhere readProperties := by
  apply (pinpoints_property.separated (isPunct_factors ",") (@reads_property 0).length_le).bind
  intro properties
  exact (pinpoints_punct "\x7d").map fun _ => ⟨_, fun _ => rfl⟩

theorem pinpoints_node : Pinpoints NodePhrase bound anywhere readNode := by
  have hlabels := (@pinpoints_ident bound).separated (isPunct_factors "|")
    (@reads_ident 0).length_le
  apply (pinpoints_punct "(").bind
  intro _
  apply (pinpoints_ident.guarded.option (isKind_factors .ident)).bind
  intro var
  apply (hlabels.announced (isPunct_factors ":")).bind
  intro labels
  apply (pinpoints_properties.announced (isPunct_factors "\x7b")).bind
  intro properties
  exact (pinpoints_punct ")").map fun _ => ⟨_, fun _ => rfl⟩

theorem pinpoints_hops : Pinpoints HopsPhrase bound anywhere readHops := by
  have hbound : Pinpoints (Option (Integer Numeral.readUInt32?)) bound anywhere
      (readIf (startsKind .number) (readInteger Numeral.readUInt32?)) :=
    (pinpoints_integer _).guarded.option (isKind_factors .number)
  apply hbound.bind
  intro min
  exact (hbound.announced (isPunct_factors "..")).map fun max => ⟨_, fun _ => rfl⟩

theorem pinpoints_edge : Pinpoints EdgePhrase bound anywhere readEdge := by
  have hbody : Pinpoints (Option Ident × Option (Punct ":" × Ident) ×
      Option (Punct "*" × HopsPhrase) × Punct "]") bound anywhere readEdgeBody := by
    apply (pinpoints_ident.guarded.option (isKind_factors .ident)).bind
    intro var
    apply (pinpoints_ident.announced (isPunct_factors ":")).bind
    intro type
    apply (pinpoints_hops.announced (isPunct_factors "*")).bind
    intro hops
    exact (pinpoints_punct "]").map fun _ => ⟨_, fun _ => rfl⟩
  apply ((pinpoints_punct "<").guarded.option (isPunct_factors "<")).bind
  intro left
  apply (pinpoints_punct "-").bind
  intro _
  apply (hbody.announced (isPunct_factors "[")).bind
  intro body
  apply (pinpoints_punct "-").bind
  intro _
  exact ((pinpoints_punct ">").guarded.option (isPunct_factors ">")).map fun right =>
    ⟨_, fun _ => rfl⟩

theorem pinpoints_step : Pinpoints (EdgePhrase × NodePhrase) bound anywhere readStep := by
  apply pinpoints_edge.bind
  intro edge
  exact pinpoints_node.map fun node => ⟨_, fun _ => rfl⟩

theorem pinpoints_pattern : Pinpoints PatternPhrase bound anywhere readPattern := by
  have hne (x : EdgePhrase × NodePhrase) : tokens x ≠ [] := by
    obtain ⟨⟨left, ⟨t, ht⟩, y⟩, node⟩ := x
    simp
  have hsteps := (@pinpoints_step bound).guarded.many isEdgeStart_factors
    (fun ts x rest _ => (@reads_step 0).length_lt hne ts x rest) hne
  apply pinpoints_node.bind
  intro first
  rw [startsEdge_eq]
  exact hsteps.map fun steps => ⟨_, fun _ => rfl⟩

theorem pinpoints_joined {α τ : Type} [Phrase α] [Phrase τ] {word : String}
    {operand : Reader Predicate} {join : Predicate → Predicate → Predicate} (one : α → τ)
    (node : τ → Keyword word → α → τ) (h : Pinpoints α bound anywhere operand)
    (hshrink : ∀ ts q rest, operand ts = .ok (q, rest) → rest.length ≤ ts.length)
    (hone : ∀ a, tokens (one a) = tokens a)
    (hnode : ∀ left w right, tokens (node left w right) = tokens left ++ tokens (w, right)) :
    Pinpoints τ bound anywhere (readJoined word join operand) := by
  have hlist : Pinpoints (α × List (Keyword word × α)) bound anywhere
      (readJoined word join operand) := by
    apply h.bind
    intro first
    exact (h.manyAfter (isKeyword_factors word) hshrink).map fun rest => ⟨_, fun _ => rfl⟩
  apply hlist.transfer (chain one node)
  rintro ⟨first, rest⟩
  rw [chain, tokens_foldl hnode, hone]
  rfl

theorem pinpoints_primary {inner : Reader Predicate} (h : Pinpoints OrPhrase bound anywhere inner) :
    Pinpoints PrimaryPhrase (bound + 1) anywhere (readPrimary inner) := by
  have hgroup : Pinpoints (OrPhrase × Punct ")") bound anywhere fun ts =>
      inner ts >>= fun x => readPunct ")" x.2 >>= fun y => .ok (x.1, y.2) := by
    apply h.bind
    intro p
    change Pinpoints _ bound anywhere fun ts => readPunct ")" ts >>= fun y => .ok (p, y.2)
    exact (pinpoints_punct ")").map fun _ => ⟨p, fun _ => rfl⟩
  have hcondition := (@pinpoints_condition (bound + 1)).map
    (k := fun x => .ok (Predicate.condition x.1, x.2)) fun c => ⟨_, fun _ => rfl⟩
  have hchoice := (hgroup.after (p := fun t => t.isPunct "(") (Nat.le_refl _)).choice hcondition
    fun _ _ => opens_of_glimpse (isPunct_factors "(")
  apply hchoice.transfer PrimaryPhrase.ofSum
  rintro (⟨opening, inner, closing⟩ | c) <;> rfl

theorem pinpoints_predicate : Pinpoints OrPhrase bound anywhere readPredicate := by
  -- on the number of tokens: what parentheses enclose is read without the opening one
  induction bound with
  | zero => exact .below_zero
  | succ bound ih =>
    rw [readPredicate_eq]
    have hand : Pinpoints AndPhrase (bound + 1) anywhere
        (readJoined "AND" .and (readPrimary readPredicate)) := by
      apply pinpoints_joined AndPhrase.one AndPhrase.and (pinpoints_primary ih)
      · exact (reads_primary (@reads_predicate 0)).length_le
      · intro a
        rfl
      · intro left w right
        rfl
    apply pinpoints_joined OrPhrase.one OrPhrase.or hand
    · exact (reads_and (@reads_predicate 0)).length_le
    · intro a
      rfl
    · intro left w right
      rfl

theorem pinpoints_returns : Pinpoints ReturnsPhrase bound anywhere readReturns := by
  have hcount : Pinpoints (Integer Numeral.readUInt64?) bound anywhere
      (readInteger Numeral.readUInt64?) :=
    pinpoints_integer _
  apply (pinpoints_entity.separated (isPunct_factors ",") (@reads_entity 0).length_le).bind
  intro items
  apply (hcount.announced (isKeyword_factors "SKIP")).bind
  intro skip
  exact (hcount.announced (isKeyword_factors "LIMIT")).map fun limit => ⟨_, fun _ => rfl⟩

theorem pinpoints_query : Pinpoints QueryPhrase bound anywhere readQuery := by
  apply ((pinpoints_kind .str "quoted URL").announced (isKeyword_factors "USE")).bind
  intro page
  apply pinpoints_pattern.someAfter (isKeyword_factors "MATCH") (@reads_pattern 0).length_le
  · intro ts
    rfl
  · intro ts
    rfl
  · intro pattern patterns
    apply (pinpoints_predicate.announced (isKeyword_factors "WHERE")).bind
    intro predicate
    apply (pinpoints_keyword "RETURN").bind
    intro _
    exact pinpoints_returns.map fun returns => ⟨_, fun _ => rfl⟩

theorem ofTokens_eq_error {ts : List Token} {m : Misfit} (h : ofTokens ts = .error m) :
    ∃ pre c, pre ++ m.left = ts ∧ (∃ x : QueryPhrase, tokens x = pre ++ c) ∧
      (∀ t ∈ c, t.Written) ∧ ∀ pre' left', words pre' = words pre →
        glimpse left' = glimpse m.left → ∀ q, ofTokens (pre' ++ left') ≠ .ok q := by
  rcases bind_eq_error.mp h with h | ⟨⟨q, left⟩, hread, h⟩
  · obtain ⟨pre, c, hpre, hx, hc, hfails⟩ :=
      pinpoints_query.error ts m (Nat.lt_succ_self _) rfl h
    refine ⟨pre, c, hpre, hx, hc, fun pre' left' hpre' hleft q hok => ?_⟩
    obtain ⟨m', hm⟩ := hfails pre' left' hpre' hleft
    rw [ofTokens, hm] at hok
    contradiction
  · cases left with
    | nil => contradiction
    | cons t left =>
      cases h
      obtain ⟨x, hx, hsame⟩ := pinpoints_query.ok ts q (t :: left) (Nat.lt_succ_self _) rfl hread
      refine ⟨tokens x, [], hx, ⟨x, (List.append_nil _).symm⟩, List.forall_mem_nil _,
        fun pre' left' hpre hleft q' hok => ?_⟩
      rw [ofTokens, hsame pre' left' hpre hleft] at hok
      cases left' with
      | nil => exact absurd (head?_of_glimpse hleft) (by simp)
      | cons t' left' => contradiction

theorem ofTokens_of_words {ts us : List Token} {q : Query} (h : ofTokens ts = .ok q)
    (hwords : words us = words ts) : ofTokens us = .ok q := by
  obtain ⟨⟨q', left⟩, hread, h⟩ := bind_eq_ok.mp h
  cases left with
  | cons t left => contradiction
  | nil =>
    cases h
    obtain ⟨x, hx, hsame⟩ := pinpoints_query.ok ts q [] (Nat.lt_succ_self _) rfl hread
    rw [List.append_nil] at hx
    have hus := hsame us [] (by rw [hwords, hx]) rfl
    rw [List.append_nil] at hus
    rw [ofTokens, hus]
    rfl

end PageGraph.Query
