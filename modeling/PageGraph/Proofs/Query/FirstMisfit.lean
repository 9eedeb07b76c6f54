import PageGraph.Proofs.Query.Misfits
import PageGraph.Proofs.Query.Tiling

namespace PageGraph.Query

open Phrase

theorem Spans.cut {offset : Nat} {cs : List Char} {front back : List Span} {s : Span}
    (h : Spans offset cs (front ++ s :: back)) :
    ∃ before after, cs = before ++ after ∧ Spans offset before front ∧
      s.start = offset + byteLength before := by
  generalize hspans : front ++ s :: back = spans at h
  induction h generalizing front with
  | done => simp at hspans
  | @blank c offset cs spans hc _ ih =>
    obtain ⟨before, after, rfl, hfront, hs⟩ := ih hspans
    refine ⟨c :: before, after, rfl, .blank hc hfront, ?_⟩
    rw [hs, byteLength_cons, Nat.add_assoc]
  | @token kind lexeme cs offset spans hlexeme _ ih =>
    cases front with
    | nil =>
      obtain ⟨rfl, -⟩ := List.cons.inj hspans
      exact ⟨[], lexeme ++ cs, rfl, .done offset, Token.offset_ofLexeme ..⟩
    | cons f front =>
      obtain ⟨rfl, htail⟩ := List.cons.inj hspans
      obtain ⟨before, after, rfl, hfront, hs⟩ := ih htail
      refine ⟨lexeme ++ before, after, (List.append_assoc ..).symm,
        .token (lexeme?_of_append hlexeme) hfront, ?_⟩
      rw [hs, byteLength_append, Nat.add_assoc]

theorem offset_lt_of_tokensFrom {offset : Nat} {cs : List Char} {ts : List Token}
    (h : tokensFrom offset cs = .ok ts) : ∀ t ∈ ts, t.offset < offset + byteLength cs := by
  obtain ⟨spans, hspans, rfl⟩ := (tokensFrom_eq_ok_iff offset cs ts).mp h
  intro t ht
  obtain ⟨s, hs, rfl⟩ := List.mem_map.mp ht
  obtain ⟨_, hlt, hle⟩ := hspans.bounds hs
  exact Nat.lt_of_lt_of_le hlt hle

theorem exists_front {text : String} {pre left : List Token}
    (h : tokenize text = .ok (pre ++ left)) :
    ∃ before after, text = String.ofList before ++ String.ofList after ∧
      tokensFrom 0 before = .ok pre ∧
      byteLength before = (left.head?.map (·.offset)).getD text.utf8ByteSize := by
  cases left with
  | nil =>
    rw [List.append_nil] at h
    exact ⟨text.toList, [], by simp, h, (utf8ByteSize_eq text).symm⟩
  | cons t rest =>
    obtain ⟨spans, hspans, htokens⟩ := (tokensFrom_eq_ok_iff 0 text.toList _).mp h
    obtain ⟨front, back, rfl, rfl, hback⟩ := List.map_eq_append_iff.mp htokens
    obtain ⟨s, back, rfl, rfl, -⟩ := List.map_eq_cons_iff.mp hback
    obtain ⟨before, after, htext, hfront, hs⟩ := hspans.cut
    refine ⟨before, after, ?_, (tokensFrom_eq_ok_iff _ _ _).mpr ⟨front, hfront, rfl⟩, ?_⟩
    · rw [← String.ofList_append, ← htext, String.ofList_toList]
    · rw [Nat.zero_add] at hs
      exact hs.symm

theorem takeWhile_offset {pre left : List Token} {stop : Nat}
    (h : ∀ t ∈ pre, t.offset < (left.head?.map (·.offset)).getD stop) :
    ((pre ++ left).takeWhile fun t => t.offset < (left.head?.map (·.offset)).getD stop) = pre := by
  rw [List.takeWhile_append_of_pos fun t ht => decide_eq_true (h t ht)]
  cases left with
  | nil => exact List.append_nil pre
  | cons t rest => simp

theorem Token.word_ofLexeme (kind : TokenKind) (lexeme : List Char) (offset offset' : Nat) :
    (Token.ofLexeme kind lexeme offset).word = (Token.ofLexeme kind lexeme offset').word := by
  cases kind <;> rfl

theorem exists_written (c : List Token) (hc : ∀ t ∈ c, t.Written) {offset : Nat}
    {before : List Char} {pre : List Token} (h : tokensFrom offset before = .ok pre) :
    ∃ more us, tokensFrom offset (before ++ more) = .ok (pre ++ us) ∧ words us = words c := by
  induction c generalizing before pre with
  | nil => exact ⟨[], [], by simpa using h, rfl⟩
  | cons t c ih =>
    obtain ⟨⟨kind, lexeme, hlexeme, hword⟩, hc⟩ := List.forall_mem_cons.mp hc
    let u := Token.ofLexeme kind lexeme (offset + byteLength before + 1)
    have hnext : tokensFrom offset (before ++ ' ' :: lexeme) = .ok (pre ++ [u]) := by
      rw [tokensFrom_space h, tokensFrom_lexeme hlexeme]
      rfl
    have hu : u.word = t.word := (Token.word_ofLexeme ..).trans hword
    obtain ⟨more, us, hmore, hus⟩ := ih hc hnext
    refine ⟨' ' :: lexeme ++ more, u :: us, ?_, ?_⟩
    · rw [← List.append_assoc, hmore, List.append_assoc]
      rfl
    · exact congrArg₂ List.cons hu hus

def BeginsWith (text : String) (ws : List (TokenKind × String)) : Prop :=
  ∃ ts, tokenize text = .ok ts ∧ ws <+: words ts

theorem parse_of_tokenize {text : String} {ts : List Token} (h : tokenize text = .ok ts) :
    parse text = (ofTokens ts).mapError (·.locate text.utf8ByteSize) := by
  rw [parse, h]
  rfl

theorem glimpse_of_prefix {t : Token} {ts : List Token} (ht : t.isPunct "-" = false)
    (h : words [t] <+: words ts) (rest : List Token) : glimpse ts = glimpse (t :: rest) := by
  obtain ⟨more, hmore⟩ := h
  obtain ⟨t', ts, rfl, ht', -⟩ := List.map_eq_cons_iff.mp hmore.symm
  have hplain : t'.isPunct "-" = false := (isPunct_factors "-" ht').trans ht
  rw [glimpse, glimpse, ht', hplain, ht]
  rfl

theorem glimpse_of_prefix_sign {t u : Token} {ts : List Token} (ht : t.isPunct "-" = true)
    (h : words [t, u] <+: words ts) (rest : List Token) :
    glimpse ts = glimpse (t :: u :: rest) := by
  obtain ⟨more, hmore⟩ := h
  obtain ⟨t', ts, rfl, ht', htail⟩ := List.map_eq_cons_iff.mp hmore.symm
  obtain ⟨u', ts, rfl, hu', -⟩ := List.map_eq_cons_iff.mp htail
  have hsign : t'.isPunct "-" = true := (isPunct_factors "-" ht').trans ht
  rw [glimpse, glimpse, ht', hsign, ht, List.head?_cons, List.head?_cons, Option.map_some,
    Option.map_some, hu']

theorem not_parse_of_beginsWith {pre next left : List Token}
    (hrefused : ∀ pre' left', words pre' = words pre → glimpse left' = glimpse left →
      ∀ q, ofTokens (pre' ++ left') ≠ .ok q)
    (hnext : ∀ ts, words next <+: words ts → glimpse ts = glimpse left) {text : String}
    (htext : BeginsWith text (words (pre ++ next))) (q : Query) : parse text ≠ .ok q := by
  obtain ⟨ts, hts, more, hmore⟩ := htext
  rw [words_append, List.append_assoc] at hmore
  obtain ⟨pre', left', rfl, hpre, hleft⟩ := List.map_eq_append_iff.mp hmore.symm
  intro hq
  rw [parse_of_tokenize hts, mapError_eq_ok] at hq
  exact hrefused pre' left' hpre (hnext left' ⟨more, hleft.symm⟩) q hq

theorem parse_error_at_first_misfit (text : String) (ts : List Token) (e : SyntaxError)
    (htokens : tokenize text = .ok ts) (herror : parse text = .error e) :
    ∃ pre left, ts = pre ++ left ∧ pre = (ts.takeWhile fun t => t.offset < e.offset) ∧
      e.offset = (left.head?.map (·.offset)).getD text.utf8ByteSize ∧
      (∃ before after more us q, text = before ++ after ∧ before.utf8ByteSize = e.offset ∧
        tokenize (before ++ more) = .ok (pre ++ us) ∧ parse (before ++ more) = .ok q) ∧
      (∀ t rest, left = t :: rest → t.isPunct "-" = false →
        ∀ other q, BeginsWith other (words (pre ++ [t])) → parse other ≠ .ok q) ∧
      ∀ t u rest, left = t :: u :: rest → t.isPunct "-" = true →
        ∀ other q, BeginsWith other (words (pre ++ [t, u])) → parse other ≠ .ok q := by
  rw [parse_of_tokenize htokens] at herror
  cases hm : ofTokens ts with
  | ok q =>
    rw [hm] at herror
    contradiction
  | error m =>
    rw [hm] at herror
    cases herror
    obtain ⟨pre, c, rfl, ⟨x, hx⟩, hc, hrefused⟩ := ofTokens_eq_error hm
    obtain ⟨before, after, htext, hbefore, hoffset⟩ := exists_front htokens
    have hlt := offset_lt_of_tokensFrom hbefore
    rw [Nat.zero_add, hoffset] at hlt
    obtain ⟨more, us, hmore, hus⟩ := exists_written c hc hbefore
    have htokens' : tokenize (String.ofList before ++ String.ofList more) = .ok (pre ++ us) := by
      rw [tokenize, String.toList_append, String.toList_ofList, String.toList_ofList, hmore]
    have hquery : ofTokens (pre ++ us) = .ok x.query := by
      apply ofTokens_of_words ((ofTokens_eq_ok _ _).mpr ⟨x, rfl, rfl⟩)
      rw [hx, words_append, words_append, hus]
    refine ⟨pre, m.left, rfl, (takeWhile_offset hlt).symm, rfl, ⟨String.ofList before, String.ofList after,
      String.ofList more, us, x.query, htext, ?_, htokens', ?_⟩, ?_, ?_⟩
    · rw [utf8ByteSize_eq, String.toList_ofList, hoffset]
      rfl
    · rw [parse_of_tokenize htokens', hquery]
      rfl
    · intro t rest hleft ht other q hother
      rw [hleft] at hrefused
      exact not_parse_of_beginsWith hrefused (fun ts h => glimpse_of_prefix ht h rest) hother q
    · intro t u rest hleft ht other q hother
      rw [hleft] at hrefused
      exact not_parse_of_beginsWith hrefused (fun ts h => glimpse_of_prefix_sign ht h rest) hother q

theorem parse_error_at_first_misfit_unclosed :
    parse "MATCH (a RETURN b" = .error ⟨.expected "\")\"" (some "RETURN"), 9⟩ ∧
    (∃ before after more q, "MATCH (a RETURN b" = before ++ after ∧ before.utf8ByteSize = 9 ∧
      parse (before ++ more) = .ok q) ∧
    ∀ other q, BeginsWith other
      [(.ident, "MATCH"), (.punct, "("), (.ident, "a"), (.ident, "RETURN")] → parse other ≠ .ok q := by
  have htokens : tokenize "MATCH (a RETURN b" = .ok [⟨.ident, "MATCH", 0⟩, ⟨.punct, "(", 6⟩,
      ⟨.ident, "a", 7⟩, ⟨.ident, "RETURN", 9⟩, ⟨.ident, "b", 16⟩] := by
    decide +kernel
  have herror : parse "MATCH (a RETURN b" = .error ⟨.expected "\")\"" (some "RETURN"), 9⟩ := by
    decide +kernel
  obtain ⟨_, left, hall, rfl, _, ⟨before, after, more, us, q, htext, hsize, _, hq⟩, hnone, _⟩ :=
    parse_error_at_first_misfit _ _ _ htokens herror
  have hleft : left = [⟨.ident, "RETURN", 9⟩, ⟨.ident, "b", 16⟩] := by
    simpa using hall.symm
  exact ⟨herror, ⟨before, after, more, q, htext, hsize, hq⟩, hnone _ _ hleft rfl⟩

end PageGraph.Query
