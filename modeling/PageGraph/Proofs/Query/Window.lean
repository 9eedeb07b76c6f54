import PageGraph.Proofs.Numeral
import PageGraph.Proofs.Query.Recognition
import PageGraph.Proofs.Query.Spacing
import PageGraph.Query.Compile

namespace PageGraph

namespace Query

open Phrase

def windowed (text : String) (skip limit : Nat) : String :=
  text ++ " SKIP " ++ toString skip ++ " LIMIT " ++ toString limit

theorem toList_windowed (text : String) (skip limit : Nat) :
    (windowed text skip limit).toList = text.toList ++ ' ' :: ("SKIP".toList ++ ' ' ::
      (Nat.toDigits 10 skip ++ ' ' :: ("LIMIT".toList ++ ' ' :: Nat.toDigits 10 limit))) := by
  have htext (n : Nat) : (toString n).toList = Nat.toDigits 10 n := Nat.toList_repr
  simp only [windowed, String.toList_append, htext, List.append_assoc]
  rfl

theorem tokenize_windowed {text : String} {ts : List Token} (h : tokenize text = .ok ts)
    (skip limit : Nat) :
    ∃ i j k l, tokenize (windowed text skip limit) = .ok (ts ++ [⟨.ident, "SKIP", i⟩,
      ⟨.number, toString skip, j⟩, ⟨.ident, "LIMIT", k⟩, ⟨.number, toString limit, l⟩]) := by
  rw [tokenize, toList_windowed, tokensFrom_space h,
    tokensFrom_space (tokensFrom_word rfl (by decide) _), tokensFrom_space (tokensFrom_toDigits _ _),
    tokensFrom_space (tokensFrom_word rfl (by decide) _), tokensFrom_toDigits]
  exact ⟨_, _, _, _, rfl⟩

def window (q : Query) (skip limit : UInt64) : Query :=
  { q with returns := { q.returns with skip := some skip, limit := some limit } }

theorem isKeyword_self (word : String) (offset : Nat) :
    Token.isKeyword ⟨.ident, word, offset⟩ word = true := by
  simp [Token.isKeyword, Text.sameIgnoringCase]

theorem ofTokens_window {ts : List Token} {q : Query} (h : ofTokens ts = .ok q)
    (hskip : q.returns.skip = none) (hlimit : q.returns.limit = none) {a b : Nat}
    (ha : a < UInt64.size) (hb : b < UInt64.size) (i j k l : Nat) :
    ofTokens (ts ++ [⟨.ident, "SKIP", i⟩, ⟨.number, toString a, j⟩, ⟨.ident, "LIMIT", k⟩,
      ⟨.number, toString b, l⟩]) = .ok (q.window a.toUInt64 b.toUInt64) := by
  obtain ⟨⟨page, patterns, predicate, word, items, skip, limit⟩, rfl, rfl⟩ :=
    (ofTokens_eq_ok ts q).mp h
  obtain rfl : skip = none := Option.map_eq_none_iff.mp hskip
  obtain rfl : limit = none := Option.map_eq_none_iff.mp hlimit
  refine (ofTokens_eq_ok _ _).mpr ⟨(page, patterns, predicate, word, items,
    some (⟨⟨.ident, "SKIP", i⟩, isKeyword_self _ _⟩, ⟨a.toUInt64, ⟨.number, toString a, j⟩, rfl, ?_⟩),
    some (⟨⟨.ident, "LIMIT", k⟩, isKeyword_self _ _⟩, ⟨b.toUInt64, ⟨.number, toString b, l⟩, rfl, ?_⟩)),
    ?_, rfl⟩
  · exact Numeral.readUInt64?_toString ha
  · exact Numeral.readUInt64?_toString hb
  · simp [List.append_assoc]

theorem parse_windowed {text : String} {q : Query} (h : parse text = .ok q)
    (hskip : q.returns.skip = none) (hlimit : q.returns.limit = none) {a b : Nat}
    (ha : a < UInt64.size) (hb : b < UInt64.size) :
    parse (windowed text a b) = .ok (q.window a.toUInt64 b.toUInt64) := by
  obtain ⟨ts, hts, h⟩ := bind_eq_ok.mp h
  obtain ⟨i, j, k, l, htokens⟩ := tokenize_windowed hts a b
  refine bind_eq_ok.mpr ⟨_, htokens, mapError_eq_ok.mpr ?_⟩
  exact ofTokens_window (mapError_eq_ok.mp h) hskip hlimit ha hb i j k l

end Query

def Plan.window (p : Plan) (skip limit : UInt64) : Plan :=
  { p with skipAnchors := skip, topAnchors := limit }

theorem Query.plan_window {q : Query} {config : SearchConfig} {plan : Plan}
    (h : q.plan config = .ok plan) (skip limit : UInt64) :
    (q.window skip limit).plan config = .ok (plan.window skip limit) := by
  obtain ⟨pattern, honly, h⟩ := bind_eq_ok.mp h
  obtain ⟨roles, hroles, h⟩ := bind_eq_ok.mp h
  obtain ⟨c, hc, h⟩ := bind_eq_ok.mp h
  obtain ⟨t, ht, h⟩ := bind_eq_ok.mp h
  obtain ⟨⟨⟩, hitems, h⟩ := bind_eq_ok.mp h
  cases h
  exact bind_eq_ok.mpr ⟨pattern, honly, bind_eq_ok.mpr ⟨roles, hroles, bind_eq_ok.mpr ⟨c, hc,
    bind_eq_ok.mpr ⟨t, ht, bind_eq_ok.mpr ⟨⟨⟩, hitems, rfl⟩⟩⟩⟩⟩

theorem Query.window_eq_plan {q : Query} {config : SearchConfig} {plan : Plan}
    (h : q.plan config = .ok plan) (hskip : q.returns.skip = none)
    (hlimit : q.returns.limit = none) : plan.window 0 config.topAnchors = plan := by
  obtain ⟨pattern, _, h⟩ := bind_eq_ok.mp h
  obtain ⟨roles, _, h⟩ := bind_eq_ok.mp h
  obtain ⟨c, _, h⟩ := bind_eq_ok.mp h
  obtain ⟨t, _, h⟩ := bind_eq_ok.mp h
  obtain ⟨⟨⟩, _, h⟩ := bind_eq_ok.mp h
  rw [← Except.ok.inj h, Plan.window, hskip, hlimit]
  rfl

end PageGraph
