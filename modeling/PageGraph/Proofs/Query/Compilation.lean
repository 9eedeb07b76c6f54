import Mathlib.Data.List.Induction
import PageGraph.Proofs.Except
import PageGraph.Query.Compile

namespace PageGraph

theorem LabelSet.toList_ofList (labels : List Label) :
    (LabelSet.ofList labels).toList = labels.eraseDups := by
  induction labels using List.reverseRecOn with
  | nil => rfl
  | append_singleton labels l ih =>
    have hstep : LabelSet.ofList (labels ++ [l]) = (LabelSet.ofList labels).addBack l := by
      rw [ofList, List.foldl_append, List.foldl_cons, List.foldl_nil, ofList]
    rw [hstep, List.eraseDups_append, ← ih, addBack]
    by_cases hl : l ∈ labels
    · rw [dif_pos (by rw [ih]; exact List.mem_eraseDups.mpr hl)]
      simp [List.removeAll, hl]
    · rw [dif_neg (by rw [ih]; exact mt List.mem_eraseDups.mp hl)]
      simp [List.removeAll, hl, List.eraseDups_cons]

namespace Query

theorem readLabel_eq_ok (spelling : String) (l : Label) :
    readLabel spelling = .ok l ↔ Label.ofSpelling? spelling = some l := by
  unfold readLabel
  cases Label.ofSpelling? spelling <;> simp

structure NodePattern.Typed (n : NodePattern) : Prop where
  properties : n.properties = []
  labelled : n.labels ≠ []
  known : ∀ spelling ∈ n.labels, ∃ l, Label.ofSpelling? spelling = some l

def NodePattern.wanted (n : NodePattern) : List Label :=
  (n.labels.filterMap Label.ofSpelling?).eraseDups

theorem NodePattern.types_eq_ok (i : Nat) (n : NodePattern) (labels : List Label) :
    n.types i = .ok labels ↔ n.Typed ∧ labels = n.wanted := by
  rw [types]
  split
  · next h =>
    refine iff_of_false (by simp) ?_
    rintro ⟨ht, _⟩
    simp [ht.properties] at h
  split
  · next h =>
    refine iff_of_false (by simp) ?_
    rintro ⟨ht, _⟩
    exact ht.labelled (List.isEmpty_iff.mp h)
  · next hp hl =>
    rw [bind_eq_ok]
    simp only [mapM_eq_ok readLabel_eq_ok, pure, Except.pure, Except.ok.injEq,
      LabelSet.toList_ofList]
    constructor
    · rintro ⟨_, ⟨hall, rfl⟩, rfl⟩
      exact ⟨⟨by simpa using hp, by simpa using hl, hall⟩, rfl⟩
    · rintro ⟨ht, rfl⟩
      exact ⟨_, ⟨ht.known, rfl⟩, rfl⟩

structure EdgePattern.Plain (e : EdgePattern) : Prop where
  untyped : e.type = none
  directed : ∀ hops, e.hops = some hops → e.direction ≠ .both
  ordered : ∀ hops, e.hops = some hops → ∀ max, hops.max = some max → hops.min ≤ max

theorem HopRange.check_eq_ok (h : HopRange) :
    h.check = .ok () ↔ ∀ max, h.max = some max → h.min ≤ max := by
  unfold check
  cases h.max with
  | none => simp
  | some max => simp [UInt32.not_lt]

theorem EdgePattern.check_eq_ok (e : EdgePattern) : e.check = .ok () ↔ e.Plain := by
  have hiff : e.Plain ↔ e.type = none ∧ ∀ hops, e.hops = some hops →
      e.direction ≠ .both ∧ hops.check = .ok () := by
    constructor
    · intro h
      exact ⟨h.untyped, fun hops hh => ⟨h.directed hops hh, hops.check_eq_ok.mpr (h.ordered hops hh)⟩⟩
    · rintro ⟨ht, h⟩
      exact ⟨ht, fun hops hh => (h hops hh).1, fun hops hh => hops.check_eq_ok.mp (h hops hh).2⟩
  rw [hiff, check]
  cases e.type with
  | some type => simp
  | none =>
    cases e.hops with
    | none => simp
    | some hops => by_cases hd : e.direction = .both <;> simp [hd]

/-- A pattern of one of the two shapes, and what it says about the labels of anchors, about those
of targets, and about whether targets contain the anchor. -/
inductive Pattern.Asks : Pattern → List Label → List Label → Bool → Prop where
  | node (n : NodePattern) : Asks ⟨[n], []⟩ [] [] false
  | pair (t a : NodePattern) (e : EdgePattern) : Asks ⟨[t, a], [e]⟩ a.wanted t.wanted true

def Pattern.declared (p : Pattern) : List String :=
  p.nodes.mapIdx NodePattern.name ++ p.edges.mapIdx EdgePattern.name

def Pattern.lastName? (p : Pattern) : Option String :=
  (p.nodes.mapIdx NodePattern.name).getLast?

theorem Pattern.roles_eq_ok (p : Pattern) (r : Roles) :
    p.roles = .ok r ↔ p.Asks r.anchorTypes r.targetTypes r.containing ∧
      (∀ n ∈ p.nodes, n.Typed) ∧ (∀ e ∈ p.edges, e.Plain) ∧
      r.declared = p.declared ∧ p.lastName? = some r.anchor := by
  constructor
  · intro h
    unfold roles at h
    split at h
    · next n =>
      obtain ⟨labels, hn, h⟩ := bind_eq_ok.mp h
      cases h
      obtain ⟨ht, _⟩ := (n.types_eq_ok 0 labels).mp hn
      exact ⟨.node n, by simpa using ht, by simp, rfl, rfl⟩
    · next t a e =>
      obtain ⟨targetTypes, ht, h⟩ := bind_eq_ok.mp h
      obtain ⟨anchorTypes, ha, h⟩ := bind_eq_ok.mp h
      obtain ⟨_, he, h⟩ := bind_eq_ok.mp h
      cases h
      obtain ⟨htyped, rfl⟩ := (t.types_eq_ok 0 targetTypes).mp ht
      obtain ⟨hatyped, rfl⟩ := (a.types_eq_ok 1 anchorTypes).mp ha
      exact ⟨.pair t a e, by simp [htyped, hatyped], by simpa using e.check_eq_ok.mp he, rfl, rfl⟩
    · contradiction
  · rintro ⟨hshape, hnodes, hedges, hvars, hlast⟩
    obtain ⟨declared, anchor, anchorTypes, targetTypes, containing⟩ := r
    simp only at hshape hvars hlast
    subst hvars
    cases hshape with
    | node n =>
      cases hlast
      have hn := (n.types_eq_ok 0 n.wanted).mpr ⟨hnodes n (by simp), rfl⟩
      simp only [roles, hn]
      rfl
    | pair t a e =>
      cases hlast
      have ht := (t.types_eq_ok 0 t.wanted).mpr ⟨hnodes t (by simp), rfl⟩
      have ha := (a.types_eq_ok 1 a.wanted).mpr ⟨hnodes a (by simp), rfl⟩
      have he := e.check_eq_ok.mpr (hedges e (by simp))
      simp only [roles, ht, ha, he]
      rfl

def Selected (anchor : String) (conditions : List Condition) (c : Condition) : Prop :=
  (∃ before after, conditions = before ++ c :: after ∧ c.entity.var = anchor ∧
    ∀ b ∈ before, b.entity.var ≠ anchor) ∨
  (∀ b ∈ conditions, b.entity.var ≠ anchor) ∧ conditions.head? = some c

theorem select?_eq_some (anchor : String) (conditions : List Condition) (c : Condition) :
    select? anchor conditions = some c ↔ Selected anchor conditions c := by
  have hfirst (b : Condition) : conditions.find? (·.entity.var = anchor) = some b ↔
      ∃ before after, conditions = before ++ b :: after ∧ b.entity.var = anchor ∧
        ∀ d ∈ before, d.entity.var ≠ anchor := by
    rw [List.find?_eq_some_iff_append]
    simp only [decide_eq_true_eq, Bool.not_eq_true', decide_eq_false_iff_not]
    constructor
    · rintro ⟨hb, before, after, rfl, hbefore⟩
      exact ⟨before, after, rfl, hb, hbefore⟩
    · rintro ⟨before, after, rfl, hb, hbefore⟩
      exact ⟨hb, before, after, rfl, hbefore⟩
  rw [Selected, ← hfirst, select?]
  cases h : conditions.find? (·.entity.var = anchor) with
  | none =>
    have hnone : ∀ b ∈ conditions, b.entity.var ≠ anchor := by simpa using h
    simpa using fun _ => hnone
  | some b =>
    obtain ⟨before, after, hsplit, hb, _⟩ := (hfirst b).mp h
    have hnot : ¬ ∀ d ∈ conditions, d.entity.var ≠ anchor := by
      intro hall
      exact hall b (by simp [hsplit]) hb
    simp [hnot]

structure Condition.Asks (c : Condition) (declared : List String) (field : PayloadField)
    (kind : MatchKind) (text : String) : Prop where
  known : c.entity.var ∈ declared
  property : c.entity.property = none ∧ field = .text ∨
    ∃ property, c.entity.property = some property ∧ Text.asciiLower property = field.name
  operator : c.op = .eq ∧ kind = .exact ∨ c.op = .contains ∧ kind = .contains
  operand : c.operand = .value (.str text) ∨ c.operand = .value (.number text)

theorem Entity.check_eq_ok (declared : List String) (e : Entity) :
    e.check declared = .ok () ↔ e.var ∈ declared := by
  unfold check
  split <;> simp_all

theorem ofProperty?_eq_some (property : String) (f : PayloadField) :
    PayloadField.ofProperty? property = some f ↔ Text.asciiLower property = f.name := by
  rw [PayloadField.ofProperty?, PayloadField.ofName?]
  constructor
  · intro h
    simpa [eq_comm] using List.find?_some h
  · intro h
    rw [h]
    exact PayloadField.ofName?_name f

theorem Entity.field_eq_ok (e : Entity) (f : PayloadField) :
    e.field = .ok f ↔ e.property = none ∧ f = .text ∨
      ∃ property, e.property = some property ∧ Text.asciiLower property = f.name := by
  unfold field
  cases e.property with
  | none => simp [eq_comm]
  | some property =>
    simp only [Option.some.injEq, reduceCtorEq, false_and, false_or, exists_eq_left',
      ← ofProperty?_eq_some]
    cases PayloadField.ofProperty? property <;> simp

theorem Operator.matchKind_eq_ok (op : Operator) (kind : MatchKind) :
    op.matchKind = .ok kind ↔ op = .eq ∧ kind = .exact ∨ op = .contains ∧ kind = .contains := by
  cases op <;> cases kind <;> simp [matchKind]

theorem Operand.text_eq_ok (operand : Operand) (text : String) :
    operand.text = .ok text ↔
      operand = .value (.str text) ∨ operand = .value (.number text) := by
  cases operand with
  | entity e => simp [Operand.text]
  | value v => cases v <;> simp [Operand.text]

theorem Condition.textMatch_eq_ok (c : Condition) (roles : Roles) (ignoreCase : Bool)
    (m : TextMatch) :
    c.textMatch roles ignoreCase = .ok m ↔ ∃ field kind text,
      c.Asks roles.declared field kind text ∧
      m = { query := text, ignoreCase, kind, field, anchorTypes := roles.anchorTypes } := by
  unfold textMatch
  constructor
  · intro h
    obtain ⟨_, hdeclared, h⟩ := bind_eq_ok.mp h
    obtain ⟨field, hfield, h⟩ := bind_eq_ok.mp h
    obtain ⟨kind, hkind, h⟩ := bind_eq_ok.mp h
    obtain ⟨text, htext, h⟩ := bind_eq_ok.mp h
    cases h
    exact ⟨field, kind, text, ⟨(c.entity.check_eq_ok _).mp hdeclared,
      (c.entity.field_eq_ok field).mp hfield, (c.op.matchKind_eq_ok kind).mp hkind,
      (c.operand.text_eq_ok text).mp htext⟩, rfl⟩
  · rintro ⟨field, kind, text, h, rfl⟩
    rw [(c.entity.check_eq_ok _).mpr h.known, (c.entity.field_eq_ok field).mpr h.property,
      (c.op.matchKind_eq_ok kind).mpr h.operator, (c.operand.text_eq_ok text).mpr h.operand]
    rfl

theorem onlyPattern_eq_ok (ps : List Pattern) (p : Pattern) :
    onlyPattern ps = .ok p ↔ ps = [p] := by
  unfold onlyPattern
  split <;> simp_all

def leaves (q : Query) : List Condition :=
  (q.predicate.map (·.conditions)).getD []

theorem selected_eq_ok (q : Query) (anchor : String) (c : Condition) :
    q.selected anchor = .ok c ↔ Selected anchor q.leaves c := by
  rw [← select?_eq_some, selected, leaves]
  cases select? anchor ((q.predicate.map (·.conditions)).getD []) <;> simp

theorem plan_eq_ok_iff (q : Query) (config : SearchConfig) (p : Plan) :
    q.plan config = .ok p ↔
      ∃ pattern anchorTypes targetTypes containing anchor condition field kind text,
        q.patterns = [pattern] ∧ pattern.Asks anchorTypes targetTypes containing ∧
        (∀ n ∈ pattern.nodes, n.Typed) ∧ (∀ e ∈ pattern.edges, e.Plain) ∧
        pattern.lastName? = some anchor ∧ Selected anchor q.leaves condition ∧
        condition.Asks pattern.declared field kind text ∧
        (∀ e ∈ q.returns.items, e.var ∈ pattern.declared) ∧
        p = {
          page := q.page
          textMatch := { query := text, ignoreCase := config.ignoreCase, kind, field, anchorTypes }
          targetTypes
          topAnchors := q.returns.limit.getD config.topAnchors
          topNeighbours := config.topNeighbours
          skipAnchors := q.returns.skip.getD 0
          containing
          returns := q.returns.items.map (·.show) } := by
  constructor
  · intro h
    obtain ⟨pattern, hpattern, h⟩ := bind_eq_ok.mp h
    obtain ⟨roles, hroles, h⟩ := bind_eq_ok.mp h
    obtain ⟨c, hc, h⟩ := bind_eq_ok.mp h
    obtain ⟨m, hm, h⟩ := bind_eq_ok.mp h
    obtain ⟨⟨⟩, hitems, h⟩ := bind_eq_ok.mp h
    cases h
    obtain ⟨hasks, hnodes, hedges, hvars, hlast⟩ := (pattern.roles_eq_ok roles).mp hroles
    obtain ⟨field, kind, text, hcond, rfl⟩ := (c.textMatch_eq_ok roles _ m).mp hm
    simp only [forM_eq_ok, Entity.check_eq_ok, hvars] at hitems
    rw [hvars] at hcond
    exact ⟨pattern, roles.anchorTypes, roles.targetTypes, roles.containing, roles.anchor, c, field,
      kind, text, (onlyPattern_eq_ok _ _).mp hpattern, hasks, hnodes, hedges, hlast,
      (q.selected_eq_ok _ _).mp hc, hcond, hitems, rfl⟩
  · rintro ⟨pattern, anchorTypes, targetTypes, containing, anchor, c, field, kind, text, hpattern,
      hasks, hnodes, hedges, hlast, hselected, hcond, hitems, rfl⟩
    have hroles := (pattern.roles_eq_ok ⟨pattern.declared, anchor, anchorTypes, targetTypes,
      containing⟩).mpr ⟨hasks, hnodes, hedges, rfl, hlast⟩
    have hmatch := (c.textMatch_eq_ok ⟨pattern.declared, anchor, anchorTypes, targetTypes,
      containing⟩ config.ignoreCase _).mpr ⟨field, kind, text, hcond, rfl⟩
    have hreturns : q.returns.items.forM (Entity.check pattern.declared) = .ok () := by
      simpa only [forM_eq_ok, Entity.check_eq_ok] using hitems
    have hselected := (q.selected_eq_ok anchor c).mpr hselected
    simp only [plan, (onlyPattern_eq_ok _ _).mpr hpattern, hroles, hselected, hmatch, hreturns, bind,
      Except.bind, pure, Except.pure]

example : plan ⟨none, [⟨[⟨none, ["Grid"], []⟩, ⟨none, ["Title"], []⟩], []⟩], none, ⟨[], none, none⟩⟩ {} =
    .error (.unsupportedShape 2 0) :=
  rfl

end Query

end PageGraph
