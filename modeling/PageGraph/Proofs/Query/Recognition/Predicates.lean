import PageGraph.Proofs.Query.Recognition.Terms

namespace PageGraph.Query

open Phrase

variable {bound : Nat}

theorem operatorOfToken?_eq_some (t : Token) (op : Operator) :
    operatorOfToken? t = some op ↔ op.IsSpelled t := by
  have his (h : t.isKeyword "CONTAINS" = true) : t.isKeyword "IS" = false :=
    isKeyword_eq_false h (by decide)
  cases op <;> grind [operatorOfToken?, Operator.IsSpelled, Token.isPunct, Token.isKeyword]

theorem isPoint_of_isSpelled {op : Operator} {t : Token} (h : op.IsSpelled t) :
    t.isPunct "." = false := by
  cases op with
  | eq =>
    rcases h with h | h
    · exact isPunct_eq_false h (by decide)
    · exact isPunct_eq_false h (by decide)
  | neq | gt | lt | gte | lte => exact isPunct_eq_false h (by decide)
  | is | contains => exact isPunct_of_isKeyword h "."

theorem reads_operator :
    Reads bound anywhere readOperator (fun s : Spelled Operator.IsSpelled => s.meaning) never := by
  apply reads_spelled (misfit "comparison operator") operatorOfToken?_eq_some
  intro ts
  rw [readOperator]
  cases ts.head?.bind operatorOfToken? <;> rfl

theorem isReference_iff (t : Token) :
    isReference t = true ↔ t.kind = .ident ∧ valueOfToken? t = none := by
  grind [isReference, valueOfToken?]

theorem opens_isReference : opens isReference =
    fun ts => startsKind .ident ts && (ts.head?.bind valueOfToken?).isNone := by
  funext ts
  cases ts with
  | nil => rfl
  | cons t ts =>
    rw [Bool.eq_iff_iff, opens_cons, isReference_iff]
    simp [startsKind]

theorem opens_isReference_value (v : ValuePhrase) (rest : List Token) :
    opens isReference (tokens v ++ rest) = false := by
  rw [Bool.eq_false_iff]
  rcases v with ⟨⟨t, ht⟩, number⟩ | ⟨v, t, ht⟩
  · intro href
    have hkind := ((isReference_iff t).mp href).1
    rw [kind_of_isPunct ht] at hkind
    contradiction
  · intro href
    have hnone := ((isReference_iff t).mp href).2
    rw [(valueOfToken?_eq_some t v).mpr ht] at hnone
    contradiction

theorem reads_operand :
    Reads bound anywhere readOperand OperandPhrase.operand (fun t => t.isPunct ".") := by
  have hentity : Reads bound (opens isReference)
      (fun ts => readEntity ts >>= fun x => .ok (Operand.entity x.1, x.2))
      (fun e : EntityPhrase isReference => .entity e.entity) (fun t => t.isPunct ".") := by
    apply (reads_entity_of _).map
    · intro e ts
      rfl
    · intro t ht
      exact decide_eq_true ((isReference_iff t).mp ht).1
  have hvalue : Reads bound anywhere
      (fun ts => readValue ts >>= fun x => .ok (Operand.value x.1, x.2))
      (fun v : ValuePhrase => .value v.value) never := by
    apply reads_value.map
    intro v ts
    rfl
  have hoperand : Sum.elim (fun e : EntityPhrase isReference => Operand.entity e.entity)
      (fun v : ValuePhrase => .value v.value) = OperandPhrase.operand := by
    funext x
    cases x <;> rfl
  have hchoice := (hentity.choice hvalue opens_isReference_value).settle
  rw [hoperand, opens_isReference] at hchoice
  exact hchoice

theorem reads_condition :
    Reads bound anywhere readCondition ConditionPhrase.condition (fun t => t.isPunct ".") := by
  apply reads_entity.bind
  · intro entity
    apply reads_operator.bind
    · intro op
      apply reads_operand.map
      intro operand ts
      rfl
    · intro _ _ _
      exact opens_never _
  · rintro ⟨⟨op, t, ht⟩, x⟩ rest _
    simp [isPoint_of_isSpelled ht]

section

variable {α τ : Type} {word : String}

def chain (one : α → τ) (node : τ → Keyword word → α → τ) (x : α × List (Keyword word × α)) : τ :=
  x.2.foldl (fun left y => node left y.1 y.2) (one x.1)

theorem chain_concat (one : α → τ) (node : τ → Keyword word → α → τ) (first : α)
    (rest : List (Keyword word × α)) (w : Keyword word) (right : α) :
    chain one node (first, rest ++ [(w, right)]) = node (chain one node (first, rest)) w right := by
  rw [chain, List.foldl_append]
  rfl

variable [Phrase α] [Phrase τ] {one : α → τ} {node : τ → Keyword word → α → τ}

theorem tokens_foldl
    (hnode : ∀ left w right, tokens (node left w right) = tokens left ++ tokens (w, right))
    (rest : List (Keyword word × α)) (left : τ) :
    tokens (rest.foldl (fun left x => node left x.1 x.2) left) = tokens left ++ tokens rest := by
  induction rest generalizing left with
  | nil => exact (List.append_nil _).symm
  | cons x rest ih => rw [List.foldl_cons, ih, hnode, tokens_cons, List.append_assoc]

theorem reads_joined {operand : Reader Predicate} {join : Predicate → Predicate → Predicate}
    {value : α → Predicate} {predicate : τ → Predicate} {more : Token → Bool}
    (h : Reads bound anywhere operand value more)
    (hword : ∀ t, t.isKeyword word = true → more t = false)
    (hone : ∀ a, tokens (one a) = tokens a ∧ predicate (one a) = value a)
    (hnode : ∀ left w right,
      tokens (node left w right) = tokens left ++ tokens (w, right) ∧
        predicate (node left w right) = join (predicate left) (value right))
    (hchain : Function.Surjective (chain one node)) :
    Reads bound anywhere (readJoined word join operand) predicate
      (fun t => t.isKeyword word || more t) := by
  have hrest := h.after (p := fun t => t.isKeyword word) (Nat.le_succ bound)
  have hlist : Reads bound anywhere (readJoined word join operand)
      (fun x : α × List (Keyword word × α) =>
        x.2.foldl (fun p y => join p (value y.2)) (value x.1))
      (fun t => t.isKeyword word || more t) := by
    apply h.bind
    · intro first
      apply (hrest.many hword).map
      intro rest ts
      simp only [List.foldl_map]
      rfl
    · intro rest ts hts
      exact hrest.opens_items hword rest ts (opens_or_eq_false.mp hts).2
  apply hlist.transfer hchain
  · rintro ⟨first, rest⟩
    rw [chain, tokens_foldl fun left w right => (hnode left w right).1, (hone first).1]
    rfl
  · rintro ⟨first, rest⟩
    rw [chain, ← (hone first).2]
    exact (List.foldl_hom predicate fun left y => ((hnode left y.1 y.2).2).symm).symm

end

theorem AndPhrase.chain_surjective : Function.Surjective (chain AndPhrase.one AndPhrase.and)
  | .one operand => ⟨(operand, []), rfl⟩
  | .and left word right => by
    obtain ⟨⟨first, rest⟩, rfl⟩ := chain_surjective left
    exact ⟨_, chain_concat _ _ first rest word right⟩

theorem OrPhrase.chain_surjective : Function.Surjective (chain OrPhrase.one OrPhrase.or)
  | .one operand => ⟨(operand, []), rfl⟩
  | .or left word right => by
    obtain ⟨⟨first, rest⟩, rfl⟩ := chain_surjective left
    exact ⟨_, chain_concat _ _ first rest word right⟩

def PrimaryPhrase.ofSum : (Punct "(" × OrPhrase × Punct ")") ⊕ ConditionPhrase → PrimaryPhrase
  | .inl (opening, inner, closing) => .group opening inner closing
  | .inr c => .condition c

theorem PrimaryPhrase.ofSum_surjective : Function.Surjective ofSum
  | .condition c => ⟨.inr c, rfl⟩
  | .group opening inner closing => ⟨.inl (opening, inner, closing), rfl⟩

def extendsPredicate (t : Token) : Bool :=
  t.isKeyword "OR" || (t.isKeyword "AND" || t.isPunct ".")

theorem reads_primary {inner : Reader Predicate}
    (h : Reads bound anywhere inner OrPhrase.predicate extendsPredicate) :
    Reads (bound + 1) anywhere (readPrimary inner) PrimaryPhrase.predicate
      (fun t => t.isPunct ".") := by
  have hgroup : Reads bound anywhere
      (fun ts => inner ts >>= fun x => readPunct ")" x.2 >>= fun y => .ok (x.1, y.2))
      (fun x : OrPhrase × Punct ")" => x.1.predicate) never := by
    apply h.bind
    · intro p
      change Reads bound anywhere
        (fun ts => readPunct ")" ts >>= fun y => .ok (p.predicate, y.2)) _ never
      apply (reads_punct ")").map
      intro _ ts
      rfl
    · rintro ⟨t, ht⟩ rest _
      simp [extendsPredicate, isPunct_eq_false ht, isKeyword_of_isPunct ht]
  have hcondition : Reads (bound + 1) anywhere
      (fun ts => readCondition ts >>= fun x => .ok (Predicate.condition x.1, x.2))
      (fun c : ConditionPhrase => .condition c.condition) (fun t => t.isPunct ".") := by
    apply reads_condition.map
    intro c ts
    rfl
  have hdistinct (c : ConditionPhrase) (rest : List Token) :
      opens (fun t => t.isPunct "(") (tokens c ++ rest) = false := by
    obtain ⟨⟨⟨t, ht⟩, property⟩, x⟩ := c
    have hkind : t.kind = .ident := of_decide_eq_true ht
    exact isPunct_of_kind (by simp [hkind]) "("
  have hchoice := (hgroup.after (p := fun t => t.isPunct "(") (Nat.le_refl _)).choice hcondition
    hdistinct
  apply (hchoice.transfer PrimaryPhrase.ofSum_surjective _ _).weaken fun _ h => h
  · rintro (⟨opening, inner, closing⟩ | c) <;> rfl
  · rintro (⟨opening, inner, closing⟩ | c) <;> rfl

theorem reads_and {inner : Reader Predicate}
    (h : Reads bound anywhere inner OrPhrase.predicate extendsPredicate) :
    Reads (bound + 1) anywhere (readJoined "AND" .and (readPrimary inner)) AndPhrase.predicate
      (fun t => t.isKeyword "AND" || t.isPunct ".") := by
  apply reads_joined (reads_primary h) _ _ _ AndPhrase.chain_surjective
  · intro t ht
    exact isPunct_of_isKeyword ht "."
  · intro p
    exact ⟨rfl, rfl⟩
  · intro left word right
    exact ⟨rfl, rfl⟩

theorem reads_or {inner : Reader Predicate}
    (h : Reads bound anywhere inner OrPhrase.predicate extendsPredicate) :
    Reads (bound + 1) anywhere
      (readJoined "OR" .or (readJoined "AND" .and (readPrimary inner))) OrPhrase.predicate
      extendsPredicate := by
  apply reads_joined (reads_and h) _ _ _ OrPhrase.chain_surjective
  · intro t ht
    rw [isKeyword_eq_false ht (by decide), isPunct_of_isKeyword ht, Bool.or_false]
  · intro x
    exact ⟨rfl, rfl⟩
  · intro left word right
    exact ⟨rfl, rfl⟩

-- A phrase in parentheses has two tokens more than what is inside, so one level is enough for
-- every further token.
theorem reads_predicateWithin (depth : Nat) :
    Reads depth anywhere (readPredicateWithin depth) OrPhrase.predicate extendsPredicate := by
  induction depth with
  | zero =>
    refine ⟨fun _ _ => rfl, ?_, ?_, ?_⟩
    · intro ts p rest _ hread
      contradiction
    · intro x rest hlt
      exact absurd hlt (Nat.not_lt_zero _)
    · intro x x' hlt
      exact absurd hlt (Nat.not_lt_zero _)
  | succ depth ih => exact reads_or ih

theorem reads_predicate : Reads bound anywhere readPredicate OrPhrase.predicate extendsPredicate := by
  refine ⟨fun _ _ => rfl, ?_, ?_, ?_⟩
  · intro ts p rest hts
    exact (reads_predicateWithin (ts.length + 1)).sound ts p rest hts
  · intro x rest _
    apply (reads_predicateWithin _).complete x rest
    rw [List.length_append]
    omega
  · intro x x' _
    exact (reads_predicateWithin _).unique x x' (Nat.lt_succ_self _)

example : readPredicate [⟨.ident, "a", 0⟩, ⟨.punct, "=", 1⟩, ⟨.number, "1", 2⟩, ⟨.ident, "or", 4⟩,
      ⟨.ident, "b", 7⟩, ⟨.ident, "is", 9⟩, ⟨.ident, "Null", 12⟩, ⟨.ident, "AND", 17⟩,
      ⟨.ident, "c", 21⟩, ⟨.punct, "<", 22⟩, ⟨.ident, "d", 23⟩] =
    .ok (.or (.condition ⟨⟨"a", none⟩, .eq, .value (.number "1")⟩)
      (.and (.condition ⟨⟨"b", none⟩, .is, .value .null⟩)
        (.condition ⟨⟨"c", none⟩, .lt, .entity ⟨"d", none⟩⟩)), []) :=
  rfl

end PageGraph.Query
