import Mathlib.Data.String.Basic
import PageGraph.Proofs.Query.Spacing

namespace PageGraph.Query

open Text

theorem byteLength_eq_utf8Len (cs : List Char) : byteLength cs = String.utf8Len cs := by
  induction cs with
  | nil => rfl
  | cons c cs ih =>
    rw [String.utf8Len_cons, ← ih, Nat.add_comm, byteLength_cons]

theorem utf8ByteSize_eq (s : String) : s.utf8ByteSize = byteLength s.toList := by
  rw [byteLength_eq_utf8Len, String.utf8Len_toList]

theorem isValid_iff (text : String) (p : Nat) :
    String.Pos.Raw.IsValid text ⟨p⟩ ↔
      ∃ before after, text.toList = before ++ after ∧ p = byteLength before := by
  rw [String.Pos.Raw.isValid_iff_exists_append]
  constructor
  · rintro ⟨before, after, rfl, hp⟩
    refine ⟨before.toList, after.toList, String.toList_append, ?_⟩
    rw [← utf8ByteSize_eq]
    exact congrArg String.Pos.Raw.byteIdx hp
  · rintro ⟨before, after, htext, rfl⟩
    refine ⟨String.ofList before, String.ofList after, ?_, ?_⟩
    · rw [← String.ofList_append, ← htext, String.ofList_toList]
    · rw [String.rawEndPos_ofList, byteLength_eq_utf8Len]

theorem append_inj_of_byteLength {as bs cs ds : List Char} (h : as ++ bs = cs ++ ds)
    (hlength : byteLength as = byteLength cs) : as = cs ∧ bs = ds := by
  have hnil (mid : List Char) (hmid : byteLength mid = 0) : mid = [] := by
    rwa [byteLength_eq_utf8Len, String.utf8Len_eq_zero] at hmid
  rcases List.append_eq_append_iff.mp h with ⟨mid, rfl, rfl⟩ | ⟨mid, rfl, rfl⟩
  · rw [byteLength_append] at hlength
    rw [hnil mid (by omega)]
    simp
  · rw [byteLength_append] at hlength
    rw [hnil mid (by omega)]
    simp

/-- The characters between two offsets, both of them where a character starts or the text ends. -/
structure Slice (text : String) (start stop : Nat) (cs : List Char) : Prop where
  start_valid : String.Pos.Raw.IsValid text ⟨start⟩
  stop_valid : String.Pos.Raw.IsValid text ⟨stop⟩
  le : start ≤ stop
  extract : String.Pos.Raw.extract text ⟨start⟩ ⟨stop⟩ = String.ofList cs

theorem extract_parts {text : String} {before cs after : List Char}
    (h : text.toList = before ++ cs ++ after) :
    String.Pos.Raw.extract text ⟨byteLength before⟩ ⟨byteLength before + byteLength cs⟩ =
      String.ofList cs := by
  rw [← String.ofList_toList (s := text), h]
  simp only [byteLength_eq_utf8Len]
  exact String.extract_of_valid before cs after

theorem slice_iff (text : String) (start stop : Nat) (cs : List Char) :
    Slice text start stop cs ↔ ∃ before after, text.toList = before ++ cs ++ after ∧
      start = byteLength before ∧ stop = byteLength before + byteLength cs := by
  constructor
  · rintro ⟨hstart, hstop, hle, hextract⟩
    obtain ⟨before, after, htext, rfl⟩ := (isValid_iff text start).mp hstart
    obtain ⟨before', after', htext', rfl⟩ := (isValid_iff text stop).mp hstop
    have heq : before ++ after = before' ++ after' := by rw [← htext, htext']
    obtain ⟨mid, rfl, rfl⟩ : ∃ mid, before' = before ++ mid ∧ after = mid ++ after' := by
      rcases List.append_eq_append_iff.mp heq with ⟨mid, h⟩ | ⟨mid, rfl, rfl⟩
      · exact ⟨mid, h⟩
      · rw [byteLength_append, byteLength_eq_utf8Len mid] at hle
        obtain rfl : mid = [] := String.utf8Len_eq_zero.mp (by omega)
        exact ⟨[], by simp, by simp⟩
    rw [← List.append_assoc] at htext
    rw [byteLength_append, extract_parts htext] at hextract
    obtain rfl := String.ofList_injective hextract
    exact ⟨before, after', htext, rfl, byteLength_append _ _⟩
  · rintro ⟨before, after, htext, rfl, rfl⟩
    refine ⟨?_, ?_, Nat.le_add_right _ _, extract_parts htext⟩
    · exact (isValid_iff _ _).mpr ⟨before, cs ++ after, by rw [htext, List.append_assoc], rfl⟩
    · exact (isValid_iff _ _).mpr ⟨before ++ cs, after, htext, by rw [byteLength_append]⟩

@[simp] theorem Token.offset_ofLexeme (kind : TokenKind) (lexeme : List Char) (offset : Nat) :
    (ofLexeme kind lexeme offset).offset = offset := by
  cases kind <;> rfl

@[simp] theorem Token.kind_ofLexeme (kind : TokenKind) (lexeme : List Char) (offset : Nat) :
    (ofLexeme kind lexeme offset).kind = kind := by
  cases kind <;> rfl

theorem byteLength_pos {cs : List Char} (h : 0 < cs.length) : 0 < byteLength cs := by
  cases cs with
  | nil => contradiction
  | cons c cs =>
    have := c.utf8Size_pos
    rw [byteLength_cons]
    omega

namespace Spans

variable {offset : Nat} {cs : List Char} {spans : List Span}

theorem exists_lexeme (h : Spans offset cs spans) {s : Span} (hs : s ∈ spans) :
    ∃ before lexeme after kind, cs = before ++ lexeme ++ after ∧
      lexeme? (lexeme ++ after) = some (some kind, lexeme.length) ∧
      s.token = Token.ofLexeme kind lexeme (offset + byteLength before) ∧
      s.stop = offset + byteLength before + byteLength lexeme := by
  induction h with
  | done => contradiction
  | @blank c offset cs spans _ _ ih =>
    obtain ⟨before, lexeme, after, kind, rfl, hlexeme, htoken, hstop⟩ := ih hs
    refine ⟨c :: before, lexeme, after, kind, rfl, hlexeme, ?_, ?_⟩
    · rw [htoken, byteLength_cons, Nat.add_assoc]
    · rw [hstop, byteLength_cons, Nat.add_assoc offset]
  | @token kind lexeme cs offset spans hlexeme _ ih =>
    rcases List.mem_cons.mp hs with rfl | hs
    · exact ⟨[], lexeme, cs, kind, rfl, hlexeme, rfl, rfl⟩
    · obtain ⟨before, lexeme', after, kind', rfl, hlexeme', htoken, hstop⟩ := ih hs
      refine ⟨lexeme ++ before, lexeme', after, kind', by simp, hlexeme', ?_, ?_⟩
      · rw [htoken, byteLength_append, Nat.add_assoc]
      · rw [hstop, byteLength_append, Nat.add_assoc offset]

theorem bounds (h : Spans offset cs spans) {s : Span} (hs : s ∈ spans) :
    offset ≤ s.start ∧ s.start < s.stop ∧ s.stop ≤ offset + byteLength cs := by
  obtain ⟨before, lexeme, after, kind, rfl, hlexeme, htoken, hstop⟩ := h.exists_lexeme hs
  have hpos := byteLength_pos (lexeme?_pos _ _ _ hlexeme)
  rw [Span.start, htoken, hstop, Token.offset_ofLexeme, byteLength_append, byteLength_append]
  omega

theorem disjoint (h : Spans offset cs spans) : spans.Pairwise fun s t => s.stop ≤ t.start := by
  induction h with
  | done => exact .nil
  | blank _ _ ih => exact ih
  | token _ hspans ih =>
    refine List.pairwise_cons.mpr ⟨?_, ih⟩
    intro t ht
    exact (hspans.bounds ht).1

theorem blank_or_mem (h : Spans offset cs spans) {before after : List Char} {c : Char}
    (hcs : cs = before ++ c :: after) :
    isBlank c = true ∨ ∃ s ∈ spans, s.start ≤ offset + byteLength before ∧
      offset + byteLength before + c.utf8Size ≤ s.stop := by
  induction h generalizing before with
  | done => simp at hcs
  | @blank d offset cs spans hd _ ih =>
    cases before with
    | nil =>
      cases hcs
      exact .inl hd
    | cons b before =>
      obtain ⟨rfl, rfl⟩ := List.cons_eq_cons.mp hcs
      rw [byteLength_cons, ← Nat.add_assoc]
      exact ih rfl
  | @token kind lexeme cs offset spans hlexeme _ ih =>
    obtain ⟨more, rfl, rfl⟩ | ⟨more, rfl⟩ : (∃ more, before = lexeme ++ more ∧
        cs = more ++ c :: after) ∨ ∃ more, lexeme = before ++ c :: more := by
      rcases List.append_eq_append_iff.mp hcs with hmore | ⟨_ | ⟨d, more⟩, hbefore, htail⟩
      · exact .inl hmore
      · exact .inl ⟨[], by simp [hbefore], htail.symm⟩
      · obtain ⟨rfl, -⟩ := List.cons_eq_cons.mp htail
        exact .inr ⟨more, hbefore⟩
    · rw [byteLength_append, ← Nat.add_assoc]
      rcases ih rfl with hblank | ⟨s, hs, hin⟩
      · exact .inl hblank
      · exact .inr ⟨s, List.mem_cons_of_mem _ hs, hin⟩
    · have hstop : offset + byteLength before + c.utf8Size ≤
          offset + byteLength (before ++ c :: more) := by
        rw [byteLength_append, byteLength_cons]
        omega
      refine .inr ⟨_, List.mem_cons_self, ?_, hstop⟩
      rw [Span.start, Token.offset_ofLexeme]
      exact Nat.le_add_right _ _

theorem append (h : Spans offset cs spans) {before after : List Char} (hcs : cs = before ++ after)
    (hcut : ∀ s ∈ spans, s.start < offset + byteLength before →
      s.stop ≤ offset + byteLength before) :
    ∃ front back, Spans offset before front ∧ Spans (offset + byteLength before) after back ∧
      spans = front ++ back := by
  induction h generalizing before with
  | done offset =>
    obtain ⟨rfl, rfl⟩ := List.append_eq_nil_iff.mp hcs.symm
    exact ⟨[], [], .done _, .done _, rfl⟩
  | @blank d offset cs spans hd hspans ih =>
    cases before with
    | nil =>
      subst hcs
      exact ⟨[], spans, .done _, .blank hd hspans, rfl⟩
    | cons b before =>
      obtain ⟨rfl, rfl⟩ := List.cons_eq_cons.mp hcs
      rw [byteLength_cons, ← Nat.add_assoc] at hcut ⊢
      obtain ⟨front, back, hfront, hback, hall⟩ := ih rfl hcut
      exact ⟨front, back, .blank hd hfront, hback, hall⟩
  | @token kind lexeme cs offset spans hlexeme hspans ih =>
    by_cases hne : before = []
    · rw [hne, List.nil_append] at hcs
      subst hne hcs
      exact ⟨[], _, .done _, .token hlexeme hspans, rfl⟩
    -- The cut is not inside of the token, so that all of its lexeme is in front.
    obtain ⟨more, rfl, rfl⟩ : ∃ more, before = lexeme ++ more ∧ cs = more ++ after := by
      rcases List.append_eq_append_iff.mp hcs with hmore | ⟨more, hmore, htail⟩
      · exact hmore
      · have hbefore := byteLength_pos (List.length_pos_iff.mpr hne)
        have hstop : offset < offset + byteLength before →
            offset + byteLength lexeme ≤ offset + byteLength before := by
          simpa only [Span.start, Token.offset_ofLexeme] using hcut _ List.mem_cons_self
        rw [hmore, byteLength_append] at hstop
        obtain rfl : more = [] := by
          rw [← List.length_eq_zero_iff]
          by_contra hlong
          have := byteLength_pos (Nat.pos_of_ne_zero hlong)
          omega
        exact ⟨[], by simp [hmore], htail.symm⟩
    rw [byteLength_append, ← Nat.add_assoc] at hcut ⊢
    obtain ⟨front, back, hfront, hback, hall⟩ :=
      ih rfl fun s hs => hcut s (List.mem_cons_of_mem _ hs)
    exact ⟨_ :: front, back, .token (lexeme?_of_append hlexeme) hfront, hback,
      by rw [hall, List.cons_append]⟩

end Spans

def Token.moved (p k : Nat) (t : Token) : Token :=
  { t with offset := if t.offset < p then t.offset else t.offset + k }

theorem tokensFrom_blanks_append {ws : List Char} (hws : ∀ c ∈ ws, isBlank c = true) (offset : Nat)
    (cs : List Char) : tokensFrom offset (ws ++ cs) = tokensFrom (offset + byteLength ws) cs := by
  induction ws generalizing offset with
  | nil => rfl
  | cons w ws ih =>
    obtain ⟨hw, hws⟩ := List.forall_mem_cons.mp hws
    rw [List.cons_append, tokensFrom_blank hw, ih hws, Nat.add_assoc, byteLength_cons]

theorem tokensFrom_add {offset : Nat} {cs : List Char} {ts : List Token}
    (h : tokensFrom offset cs = .ok ts) (k : Nat) :
    tokensFrom (offset + k) cs = .ok (ts.map fun t => { t with offset := t.offset + k }) := by
  obtain ⟨spans, hspans, rfl⟩ := (tokensFrom_eq_ok_iff _ _ _).mp h
  clear h
  induction hspans with
  | done => rw [tokensFrom]; rfl
  | blank hc _ ih =>
    rw [tokensFrom_blank hc, Nat.add_right_comm, ih]
  | @token kind lexeme cs offset spans hlexeme _ ih =>
    rw [tokensFrom_append hlexeme, Nat.add_right_comm, ih]
    cases kind <;> rfl

theorem Spans.tokensFrom_insert {before after ws : List Char} {spans : List Span}
    (h : Spans 0 (before ++ after) spans)
    (hcut : ∀ s ∈ spans, s.start < byteLength before → s.stop ≤ byteLength before)
    (hws : ∀ c ∈ ws, isBlank c = true) :
    tokensFrom 0 (before ++ ws ++ after) =
      .ok (spans.map fun s => s.token.moved (byteLength before) (byteLength ws)) := by
  obtain ⟨front, back, hfront, hback, rfl⟩ := h.append rfl (by simpa using hcut)
  have hfirst := (tokensFrom_eq_ok_iff _ _ _).mpr ⟨front, hfront, rfl⟩
  have hsecond := (tokensFrom_eq_ok_iff _ _ _).mpr ⟨back, hback, rfl⟩
  have hkept : front.map (fun s => s.token.moved (byteLength before) (byteLength ws)) =
      front.map (·.token) := by
    apply List.map_congr_left
    intro s hs
    have := hfront.bounds hs
    rw [Token.moved, if_pos (by rw [← Span.start]; omega)]
  have hmoved : back.map (fun s => s.token.moved (byteLength before) (byteLength ws)) =
      (back.map (·.token)).map fun t => { t with offset := t.offset + byteLength ws } := by
    rw [List.map_map]
    apply List.map_congr_left
    intro s hs
    have := hback.bounds hs
    rw [Token.moved, if_neg (by rw [← Span.start]; omega)]
    rfl
  have hinsert : tokensFrom 0 (before ++ ws ++ after) =
      (tokensFrom (byteLength before + byteLength ws) after).map (front.map (·.token) ++ ·) := by
    cases ws with
    | nil =>
      have hall := (tokensFrom_eq_ok_iff _ _ _).mpr ⟨_, h, rfl⟩
      rw [List.map_append] at hall
      rw [List.append_nil, hall, ← Nat.zero_add (byteLength before)]
      change _ = (tokensFrom (0 + byteLength before) after).map _
      rw [hsecond]
      rfl
    | cons b ws =>
      obtain ⟨hb, hws⟩ := List.forall_mem_cons.mp hws
      rw [List.append_assoc, List.cons_append, tokensFrom_append_blank hfirst hb,
        tokensFrom_blanks_append hws, Nat.zero_add, Nat.add_assoc]
      rfl
  rw [Nat.zero_add] at hsecond
  rw [hinsert, tokensFrom_add hsecond, List.map_append, hkept, hmoved]
  rfl

theorem exists_of_tokensFrom_eq_error {offset : Nat} {cs : List Char} {e : SyntaxError}
    (h : tokensFrom offset cs = .error e) :
    ∃ before c after ts, cs = before ++ c :: after ∧ e = ⟨faultAt c, offset + byteLength before⟩ ∧
      tokensFrom offset before = .ok ts ∧ lexeme? (c :: after) = none := by
  induction cs using lexeme_induction generalizing offset with
  | nil =>
    rw [tokensFrom] at h
    contradiction
  | stuck c cs hnone =>
    rw [tokensFrom_of_lexeme?_eq_none hnone, Except.error.injEq] at h
    exact ⟨[], c, cs, [], rfl, h.symm, by rw [tokensFrom], hnone⟩
  | append kind lexeme cs hlexeme ih =>
    rw [tokensFrom_append hlexeme, map_eq_error] at h
    obtain ⟨before, c, after, ts, rfl, rfl, hbefore, hnone⟩ := ih h
    have hfront := tokensFrom_append (lexeme?_of_append hlexeme) offset
    rw [hbefore] at hfront
    refine ⟨lexeme ++ before, c, after, _, by rw [List.append_assoc], ?_, hfront, hnone⟩
    rw [byteLength_append, Nat.add_assoc]

/-- Between the offsets of a token stands the longest lexeme that starts at the first of them. The
text of the token is this lexeme, or what it has between its quotes with the escapes resolved. -/
structure Span.Reads (text : String) (s : Span) (lexeme : List Char) : Prop where
  slice : Slice text s.start s.stop lexeme
  mem : lexeme ∈ lexicon (some s.token.kind)
  longest : ∀ stop kind word, Slice text s.start stop word → word ∈ lexicon kind → stop ≤ s.stop
  plain : s.token.kind ≠ .str → s.token.text = String.ofList lexeme
  unquoted : s.token.kind = .str → ∃ quote body, lexeme = quote :: (body ++ [quote]) ∧
    (quote = '"' || quote = '\'') = true ∧ s.token.text = String.ofList (unescape body)

structure Tiles (text : String) (spans : List Span) : Prop where
  reads : ∀ s ∈ spans, ∃ lexeme, s.Reads text lexeme
  increasing : spans.Pairwise fun s t => s.start < t.start
  disjoint : spans.Pairwise fun s t => s.stop ≤ t.start
  blank : ∀ p c, Slice text p (p + c.utf8Size) [c] →
    isBlank c = true ∨ ∃ s ∈ spans, s.start ≤ p ∧ p + c.utf8Size ≤ s.stop

theorem Spans.reads {text : String} {spans : List Span} (h : Spans 0 text.toList spans) {s : Span}
    (hs : s ∈ spans) : ∃ lexeme, s.Reads text lexeme := by
  obtain ⟨before, lexeme, after, kind, htext, hlexeme, htoken, hstop⟩ := h.exists_lexeme hs
  obtain ⟨-, hmem, hlongest⟩ := (lexeme?_eq_some_iff _ _ _).mp hlexeme
  rw [List.take_left] at hmem
  rw [Nat.zero_add] at htoken hstop
  have hstart : s.start = byteLength before := by
    rw [Span.start, htoken, Token.offset_ofLexeme]
  have hkind : s.token.kind = kind := by
    rw [htoken, Token.kind_ofLexeme]
  refine ⟨lexeme, ?_, ?_, ?_, ?_, ?_⟩
  · rw [hstart, hstop]
    exact (slice_iff _ _ _ _).mpr ⟨before, after, htext, rfl, rfl⟩
  · rwa [hkind]
  · intro stop kind' word hslice hword
    obtain ⟨before', after', htext', hbefore, rfl⟩ := (slice_iff _ _ _ _).mp hslice
    rw [htext, List.append_assoc, List.append_assoc] at htext'
    obtain ⟨rfl, hrest⟩ := append_inj_of_byteLength htext' (by rw [← hstart, hbefore])
    have hstarts : word <+: lexeme ++ after := ⟨after', hrest.symm⟩
    have hshort := hlongest kind' word hstarts hword
    obtain ⟨more, rfl⟩ := List.prefix_of_prefix_length_le hstarts (List.prefix_append _ _) hshort
    rw [hstop, byteLength_append]
    omega
  · intro hplain
    rw [hkind] at hplain
    rw [htoken]
    cases kind with
    | str => contradiction
    | ident | number | punct => rfl
  · intro hstr
    rw [hkind] at hstr
    subst hstr
    obtain ⟨quote, hquote, hquoted⟩ := mem_strings.mp hmem
    obtain ⟨body, -, rfl⟩ := mem_quoted.mp hquoted
    refine ⟨quote, body, rfl, hquote, ?_⟩
    rw [htoken, Token.ofLexeme, List.drop_succ_cons, List.drop_zero, List.dropLast_concat]

theorem Spans.tiles {text : String} {spans : List Span} (h : Spans 0 text.toList spans) :
    Tiles text spans := by
  constructor
  · intro s hs
    exact h.reads hs
  · apply h.disjoint.imp_of_mem
    intro s t hs _ hle
    exact Nat.lt_of_lt_of_le (h.bounds hs).2.1 hle
  · exact h.disjoint
  · intro p c hslice
    obtain ⟨before, after, htext, rfl, -⟩ := (slice_iff _ _ _ _).mp hslice
    rw [List.append_assoc, List.singleton_append] at htext
    simpa only [Nat.zero_add] using h.blank_or_mem htext

structure RefusedAt (text : String) (e : SyntaxError) : Prop where
  valid : String.Pos.Raw.IsValid text ⟨e.offset⟩
  inside : e.offset < text.utf8ByteSize
  before : ∃ ts, tokenize (String.Pos.Raw.extract text ⟨0⟩ ⟨e.offset⟩) = .ok ts
  stuck : ∀ stop kind word, Slice text e.offset stop word → word ∉ lexicon kind
  fault : ∃ c, Slice text e.offset (e.offset + c.utf8Size) [c] ∧ e.fault = faultAt c

theorem refusedAt_of_tokenize {text : String} {e : SyntaxError} (h : tokenize text = .error e) :
    RefusedAt text e := by
  obtain ⟨before, c, after, ts, htext, rfl, hbefore, hnone⟩ := exists_of_tokensFrom_eq_error h
  rw [Nat.zero_add]
  constructor
  · exact (isValid_iff _ _).mpr ⟨before, c :: after, htext, rfl⟩
  · have hpos : 0 < byteLength (c :: after) := byteLength_pos (by simp)
    change byteLength before < text.utf8ByteSize
    rw [← String.utf8Len_toList, ← byteLength_eq_utf8Len, htext, byteLength_append]
    omega
  · have hextract := extract_parts (show text.toList = [] ++ before ++ c :: after from htext)
    change String.Pos.Raw.extract text ⟨0⟩ ⟨0 + byteLength before⟩ = _ at hextract
    rw [Nat.zero_add] at hextract
    rw [hextract]
    exact ⟨ts, by rw [tokenize, String.toList_ofList, hbefore]⟩
  · intro stop kind word hslice
    obtain ⟨before', after', htext', hlength, -⟩ := (slice_iff _ _ _ _).mp hslice
    rw [htext, List.append_assoc] at htext'
    obtain ⟨rfl, hrest⟩ := append_inj_of_byteLength htext' hlength
    exact (lexeme?_eq_none_iff _).mp hnone kind word ⟨after', hrest.symm⟩
  · refine ⟨c, (slice_iff _ _ _ _).mpr ⟨before, after, by rw [htext]; simp, rfl, ?_⟩, rfl⟩
    simp [byteLength]

/-- The tokens of a text are the longest lexemes that there are, one behind the other, with blanks
between them; more blanks there move them and leave what they are. A text without tokens is refused
at the first place where there is no lexeme. -/
theorem tokenize_tiles (text : String) :
    (∀ ts, tokenize text = .ok ts → ∃ spans, spans.map (·.token) = ts ∧ Tiles text spans ∧
      ∀ before after ws : String, text = before ++ after →
        (∀ s ∈ spans, s.start < before.utf8ByteSize → s.stop ≤ before.utf8ByteSize) →
        (∀ c ∈ ws.toList, isBlank c = true) →
        tokenize (before ++ ws ++ after) =
          .ok (ts.map (Token.moved before.utf8ByteSize ws.utf8ByteSize))) ∧
    ∀ e, tokenize text = .error e → RefusedAt text e := by
  constructor
  · intro ts h
    obtain ⟨spans, hspans, rfl⟩ := (tokensFrom_eq_ok_iff _ _ _).mp h
    refine ⟨spans, rfl, hspans.tiles, ?_⟩
    rintro before after ws rfl hcut hws
    rw [String.toList_append] at hspans
    have hsize (s : String) : s.utf8ByteSize = byteLength s.toList := by
      rw [byteLength_eq_utf8Len, String.utf8Len_toList]
    simp only [hsize] at hcut ⊢
    rw [tokenize, String.toList_append, String.toList_append, hspans.tokensFrom_insert hcut hws,
      List.map_map]
    rfl
  · intro e h
    exact refusedAt_of_tokenize h

theorem tokenize_tiles_hops :
    (∃ spans, spans.map (·.token) = [⟨.number, "1", 0⟩, ⟨.punct, "..", 1⟩, ⟨.number, "2", 3⟩] ∧
      Tiles "1..2" spans) ∧
    tokenize "1 ..2" = .ok [⟨.number, "1", 0⟩, ⟨.punct, "..", 2⟩, ⟨.number, "2", 4⟩] ∧
    RefusedAt "'é' 'risks" ⟨.unterminatedString, 5⟩ := by
  have htokens : tokenize "1..2" =
      .ok [⟨.number, "1", 0⟩, ⟨.punct, "..", 1⟩, ⟨.number, "2", 3⟩] := by
    decide +kernel
  obtain ⟨spans, hspans, htiles, hinsert⟩ := (tokenize_tiles "1..2").1 _ htokens
  refine ⟨⟨spans, hspans, htiles⟩, ?_, (tokenize_tiles "'é' 'risks").2 _ (by decide +kernel)⟩
  have hcut : ∀ s ∈ spans, s.start < 1 → s.stop ≤ 1 := by
    obtain ⟨s, back, rfl, hs, hback⟩ := List.map_eq_cons_iff.mp hspans
    obtain ⟨t, more, rfl, ht, hmore⟩ := List.map_eq_cons_iff.mp hback
    have hdisjoint := (List.pairwise_cons.mp htiles.disjoint).1 t List.mem_cons_self
    have hincreasing := (List.pairwise_cons.mp (List.pairwise_cons.mp htiles.increasing).2).1
    have hstart : t.start = 1 := by rw [Span.start, ht]
    intro u hu hlt
    rcases List.mem_cons.mp hu with rfl | hu
    · rwa [hstart] at hdisjoint
    · rcases List.mem_cons.mp hu with rfl | hu
      · omega
      · have := hincreasing u hu
        omega
  apply hinsert "1" "..2" " " rfl hcut
  intro c hc
  rw [List.mem_singleton.mp hc]
  decide

end PageGraph.Query
