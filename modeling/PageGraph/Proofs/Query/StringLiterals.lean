import PageGraph.Proofs.Query.Tiling

namespace PageGraph.Query

open Text Computability

def escapeIn (quote c : Char) : List Char :=
  if c = quote || c = '\\' then ['\\', c] else [c]

def literalChars (quote : Char) (cs : List Char) : List Char :=
  quote :: (cs.flatMap (escapeIn quote) ++ [quote])

def stringLiteral (quote : Char) (s : String) : String :=
  String.ofList (literalChars quote s.toList)

variable {quote : Char}

theorem escapeIn_mem_quotable (hquote : quote ≠ '\n') (c : Char) :
    escapeIn quote c ∈ quotable quote := by
  rw [escapeIn, quotable, Language.mem_add]
  split
  · next hc =>
    right
    refine mem_single_mul.mpr ⟨'\\', [c], rfl, ⟨c, ?_, rfl⟩, rfl⟩
    rw [Bool.or_eq_true, decide_eq_true_eq, decide_eq_true_eq] at hc
    rcases hc with rfl | rfl
    · exact decide_eq_true hquote
    · decide
  · next hc =>
    left
    simp only [Bool.or_eq_true, decide_eq_true_eq, not_or] at hc
    exact ⟨c, by simp [hc], rfl⟩

theorem literalChars_mem (hquote : quote = '"' ∨ quote = '\'') (cs : List Char) :
    literalChars quote cs ∈ lexicon (some .str) := by
  have hline : quote ≠ '\n' := by
    rcases hquote with rfl | rfl <;> decide
  refine mem_strings.mpr ⟨quote, by simpa using hquote, mem_quoted.mpr ⟨_, ?_, rfl⟩⟩
  rw [Language.mem_kstar]
  refine ⟨cs.map (escapeIn quote), List.flatMap_def, ?_⟩
  intro word hword
  obtain ⟨c, -, rfl⟩ := List.mem_map.mp hword
  exact escapeIn_mem_quotable hline c

theorem unescape_cons {c : Char} (hc : c ≠ '\\') (cs : List Char) :
    unescape (c :: cs) = c :: unescape cs := by
  rw [unescape]
  simp [hc]

theorem unescape_flatMap_escapeIn (hquote : quote = '"' ∨ quote = '\'') (cs : List Char) :
    unescape (cs.flatMap (escapeIn quote)) = cs := by
  induction cs with
  | nil => rfl
  | cons c cs ih =>
    rw [List.flatMap_cons, escapeIn]
    split
    · next hc =>
      have hself : unescapeChar c = c := by
        rw [Bool.or_eq_true, decide_eq_true_eq, decide_eq_true_eq] at hc
        rcases hc with rfl | rfl
        · rcases hquote with rfl | rfl <;> decide
        · decide
      rw [List.cons_append, List.singleton_append, unescape, ih, hself]
    · next hc =>
      simp only [Bool.or_eq_true, decide_eq_true_eq, not_or] at hc
      rw [List.singleton_append, unescape_cons hc.2, ih]

theorem tokensFrom_literalChars (hquote : quote = '"' ∨ quote = '\'') (cs rest : List Char)
    (offset : Nat) :
    tokensFrom offset (literalChars quote cs ++ rest) =
      (tokensFrom (offset + byteLength (literalChars quote cs)) rest).map
        (⟨.str, String.ofList cs, offset⟩ :: ·) := by
  rw [tokensFrom_append (lexeme?_str (literalChars_mem hquote cs) rest)]
  simp only [Option.map_some, Option.toList_some, Token.ofLexeme, literalChars,
    List.drop_succ_cons, List.drop_zero, List.dropLast_concat, unescape_flatMap_escapeIn hquote]
  rfl

theorem exists_separator (hquote : quote = '"' ∨ quote = '\'') {ws : List Char}
    (hws : ∀ c ∈ ws, isBlank c = true) (cs rest : List Char) :
    ∃ b more, ws ++ (literalChars quote cs ++ rest) = b :: more ∧ separates b = true := by
  cases ws with
  | nil =>
    refine ⟨quote, _, rfl, ?_⟩
    rcases hquote with rfl | rfl <;> decide
  | cons w ws =>
    refine ⟨w, _, rfl, ?_⟩
    rw [separates, hws w List.mem_cons_self, Bool.true_or]

theorem tokensFrom_insert_literal (hquote : quote = '"' ∨ quote = '\'')
    {before after ws ws' : List Char} {front back : List Token} {offset : Nat}
    (hfront : tokensFrom offset before = .ok front)
    (hback : tokensFrom (offset + byteLength before) after = .ok back)
    (hws : ∀ c ∈ ws, isBlank c = true) (hws' : ∀ c ∈ ws', isBlank c = true) (cs : List Char) :
    tokensFrom offset (before ++ ws ++ literalChars quote cs ++ ws' ++ after) =
      .ok (front ++ ⟨.str, String.ofList cs, offset + byteLength (before ++ ws)⟩ ::
        back.map fun t =>
          { t with offset := t.offset + byteLength (ws ++ literalChars quote cs ++ ws') }) := by
  obtain ⟨b, more, hmore, hb⟩ := exists_separator hquote hws cs (ws' ++ after)
  have hlength : offset + byteLength before + byteLength ws + byteLength (literalChars quote cs) +
      byteLength ws' =
        offset + byteLength before + byteLength (ws ++ literalChars quote cs ++ ws') := by
    simp only [byteLength_append]
    omega
  simp only [List.append_assoc] at hlength ⊢
  rw [hmore, tokensFrom_append_separator hfront hb, ← hmore, tokensFrom_blanks_append hws,
    tokensFrom_literalChars hquote, tokensFrom_blanks_append hws', hlength, tokensFrom_add hback,
    byteLength_append before, ← Nat.add_assoc]
  rfl

theorem Tiles.stop_le {text : String} {spans : List Span} (h : Tiles text spans) {s t : Span}
    (hs : s ∈ spans) (ht : t ∈ spans) (hlt : s.start < t.start) : s.stop ≤ t.start := by
  obtain ⟨front, back, rfl⟩ := List.append_of_mem ht
  have hincreasing := (List.pairwise_append.mp h.increasing).2.1
  have hdisjoint := (List.pairwise_append.mp h.disjoint).2.2
  rcases List.mem_append.mp hs with hs | hs
  · exact hdisjoint s hs t List.mem_cons_self
  · rcases List.mem_cons.mp hs with rfl | hs
    · omega
    · have := (List.pairwise_cons.mp hincreasing).1 s hs
      omega

theorem tokenize_stringLiteral (quote : Char) (hquote : quote = '"' ∨ quote = '\'') (s : String) :
    tokenize (stringLiteral quote s) = .ok [⟨.str, s, 0⟩] ∧
    ∀ text ts, tokenize text = .ok ts → ∃ spans, spans.map (·.token) = ts ∧ Tiles text spans ∧
      ∀ before ws ws' after : String, text = before ++ after →
        (∀ t ∈ spans, t.start < before.utf8ByteSize → t.stop ≤ before.utf8ByteSize) →
        (∀ c ∈ ws.toList, isBlank c = true) → (∀ c ∈ ws'.toList, isBlank c = true) →
        ∃ front back, ts = front ++ back ∧ (∀ t ∈ front, t.offset < before.utf8ByteSize) ∧
          (∀ t ∈ back, before.utf8ByteSize ≤ t.offset) ∧
          tokenize (before ++ ws ++ stringLiteral quote s ++ ws' ++ after) =
            .ok (front ++ ⟨.str, s, (before ++ ws).utf8ByteSize⟩ :: back.map fun t =>
              { t with offset := t.offset + (ws ++ stringLiteral quote s ++ ws').utf8ByteSize }) := by
  constructor
  · have hread := tokensFrom_literalChars hquote s.toList [] 0
    rw [List.append_nil, tokensFrom, String.ofList_toList] at hread
    rw [tokenize, stringLiteral, String.toList_ofList, hread]
    rfl
  · intro text ts h
    obtain ⟨spans, hspans, rfl⟩ := (tokensFrom_eq_ok_iff _ _ _).mp h
    refine ⟨spans, rfl, hspans.tiles, ?_⟩
    rintro before ws ws' after rfl hcut hws hws'
    simp only [utf8ByteSize_eq, String.toList_append] at hspans hcut ⊢
    obtain ⟨front, back, hfront, hback, rfl⟩ := hspans.append rfl (by simpa using hcut)
    refine ⟨front.map (·.token), back.map (·.token), List.map_append, ?_, ?_, ?_⟩
    · intro t ht
      obtain ⟨f, hf, rfl⟩ := List.mem_map.mp ht
      have := hfront.bounds hf
      rw [← Span.start]
      omega
    · intro t ht
      obtain ⟨b, hb, rfl⟩ := List.mem_map.mp ht
      have := hback.bounds hb
      rw [← Span.start]
      omega
    · have hfirst := (tokensFrom_eq_ok_iff _ _ _).mpr ⟨front, hfront, rfl⟩
      have hsecond := (tokensFrom_eq_ok_iff _ _ _).mpr ⟨back, hback, rfl⟩
      have hinsert := tokensFrom_insert_literal hquote hfirst hsecond hws hws' s.toList
      simpa [tokenize, stringLiteral] using hinsert

theorem tokenize_stringLiteral_path :
    tokenize (stringLiteral '"' "C:\\new \"risks\"") = .ok [⟨.str, "C:\\new \"risks\"", 0⟩] ∧
    tokenize "CONTAINS \"C:\\\\new \\\"risks\\\"\" RETURN" =
      .ok [⟨.ident, "CONTAINS", 0⟩, ⟨.str, "C:\\new \"risks\"", 9⟩, ⟨.ident, "RETURN", 29⟩] := by
  have htokens : tokenize "CONTAINS RETURN" =
      .ok [⟨.ident, "CONTAINS", 0⟩, ⟨.ident, "RETURN", 9⟩] := by
    decide +kernel
  obtain ⟨halone, hbetween⟩ :=
    tokenize_stringLiteral '"' (.inl rfl) "C:\\new \"risks\""
  obtain ⟨spans, hspans, htiles, hinsert⟩ := hbetween _ _ htokens
  obtain ⟨t, ht, hreturn⟩ : ∃ t ∈ spans, t.token = ⟨.ident, "RETURN", 9⟩ :=
    List.mem_map.mp (by simp [hspans])
  have hstart : t.start = 9 := by rw [Span.start, hreturn]
  have hcut : ∀ s ∈ spans, s.start < 9 → s.stop ≤ 9 := by
    intro s hs hlt
    have := htiles.stop_le hs ht (by omega)
    omega
  have hspace : isBlank ' ' = true := by decide
  have hblank : ∀ c ∈ " ".toList, isBlank c = true := by simp [hspace]
  have hsize : "CONTAINS ".utf8ByteSize = 9 := by rfl
  obtain ⟨front, back, hall, hfront, hback, hread⟩ := hinsert "CONTAINS " "" " " "RETURN" rfl hcut
    (by simp) hblank
  refine ⟨halone, ?_⟩
  rcases front with _ | ⟨a, _ | ⟨b, front⟩⟩
  · have := hback ⟨.ident, "CONTAINS", 0⟩ (by rw [← List.nil_append back, ← hall]; simp)
    rw [hsize] at this
    simp at this
  · obtain ⟨rfl, rfl⟩ := List.cons_eq_cons.mp hall
    exact hread
  · obtain ⟨rfl, htail⟩ := List.cons_eq_cons.mp hall
    obtain ⟨rfl, -⟩ := List.cons_eq_cons.mp htail
    have := hfront ⟨.ident, "RETURN", 9⟩ (by simp)
    rw [hsize] at this
    simp at this

end PageGraph.Query
