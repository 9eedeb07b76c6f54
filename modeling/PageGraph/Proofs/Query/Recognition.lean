import PageGraph.Proofs.Query.Recognition.Patterns
import PageGraph.Proofs.Query.Recognition.Predicates

namespace PageGraph.Query

open Phrase

variable {bound : Nat}

def extendsReturns (t : Token) : Bool :=
  t.isKeyword "LIMIT" || (t.isKeyword "SKIP" || (t.isPunct "," || t.isPunct "."))

theorem reads_returns :
    Reads bound anywhere readReturns ReturnsPhrase.returns extendsReturns := by
  have hcomma (t : Token) (ht : t.isPunct "," = true) : t.isPunct "." = false :=
    isPunct_eq_false ht (by decide)
  apply (reads_entity.separated hcomma).bind
  · intro items
    apply (reads_integer _).announced.settle.bind
    · intro skip
      apply ((reads_integer _).announced.settle.map _).weaken
      · intro t ht
        rw [extendsReturns, ht, Bool.true_or]
      · intro limit ts
        rfl
    · rintro (_ | ⟨⟨t, ht⟩, limit⟩) rest hrest
      · exact (opens_or_eq_false.mp (opens_or_eq_false.mp hrest).2).1
      · exact isKeyword_eq_false ht (by decide)
  · rintro ⟨_ | ⟨⟨t, ht⟩, skip⟩, _ | ⟨⟨t', ht'⟩, limit⟩⟩ rest hrest
    · exact (opens_or_eq_false.mp (opens_or_eq_false.mp hrest).2).2
    · simp [isPunct_of_isKeyword ht']
    · simp [isPunct_of_isKeyword ht]
    · simp [isPunct_of_isKeyword ht]

theorem reads_query : Reads bound anywhere readQuery QueryPhrase.query extendsReturns := by
  have hpattern := (@reads_pattern bound).after (p := fun t => t.isKeyword "MATCH")
    (Nat.le_succ bound)
  apply (reads_kind .str "quoted URL").announced.settle.bind
  · intro page
    apply (hpattern.many fun _ => isEdgeStart_of_isKeyword).bindSome
    · intro ts x hx
      contradiction
    · intro pattern patterns
      apply reads_predicate.announced.bind
      · intro predicate
        apply (reads_keyword "RETURN").bind
        · intro _
          apply reads_returns.map
          intro returns ts
          cases page <;> cases predicate <;> rfl
        · intro _ _ _
          exact opens_never _
      · rintro ⟨⟨t, ht⟩, returns⟩ rest _
        have hwhere := isKeyword_eq_false (w := "WHERE") ht (by decide)
        have hor := isKeyword_eq_false (w := "OR") ht (by decide)
        have hand := isKeyword_eq_false (w := "AND") ht (by decide)
        simp [extendsPredicate, hwhere, hor, hand, isPunct_of_isKeyword ht]
    · rintro ⟨_ | ⟨⟨t, ht⟩, predicate⟩, ⟨⟨t', ht'⟩, returns⟩⟩ rest _
      · have hmatch := isKeyword_eq_false (w := "MATCH") ht' (by decide)
        simp [hmatch, isEdgeStart_of_isKeyword ht']
      · have hmatch := isKeyword_eq_false (w := "MATCH") ht (by decide)
        simp [hmatch, isEdgeStart_of_isKeyword ht]
  · rintro ⟨⟨⟨⟨t, ht⟩, pattern⟩, patterns⟩, x⟩ rest _
    exact isKeyword_eq_false ht (by decide)

theorem ofTokens_eq_ok (ts : List Token) (q : Query) :
    ofTokens ts = .ok q ↔ ∃ x : QueryPhrase, tokens x = ts ∧ x.query = q := by
  constructor
  · intro h
    obtain ⟨⟨q', left⟩, hread, h⟩ := bind_eq_ok.mp h
    cases left with
    | cons t left => contradiction
    | nil =>
      cases h
      obtain ⟨x, hx, hq⟩ := (@reads_query ts.length).sound ts q [] rfl hread
      exact ⟨x, by rw [← hx, List.append_nil], hq⟩
  · rintro ⟨x, rfl, rfl⟩
    have hread := reads_query.complete x [] (Nat.lt_succ_self _) rfl
    rw [List.append_nil] at hread
    rw [ofTokens, hread]
    rfl

theorem ofTokens_unique_derivation (ts : List Token) :
    (∀ q, ofTokens ts = .ok q ↔ ∃ x : QueryPhrase, tokens x = ts ∧ x.query = q) ∧
    (∀ x y : QueryPhrase, tokens x = ts → tokens y = ts → x = y) ∧
    ∀ q, ofTokens ts = .ok q → ∀ p ∈ q.patterns, p.nodes.length = p.edges.length + 1 := by
  refine ⟨ofTokens_eq_ok ts, ?_, ?_⟩
  · intro x y hx hy
    exact reads_query.unique x y (Nat.lt_succ_self _) (hx.trans hy.symm)
  · intro q hq p hp
    obtain ⟨⟨_, patterns, _⟩, _, rfl⟩ := (ofTokens_eq_ok ts q).mp hq
    rcases List.mem_cons.mp hp with rfl | hp
    · exact length_nodes_pattern _
    · obtain ⟨y, _, rfl⟩ := List.mem_map.mp hp
      exact length_nodes_pattern _

end PageGraph.Query
