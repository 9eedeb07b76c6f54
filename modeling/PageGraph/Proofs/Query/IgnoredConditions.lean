import PageGraph.Proofs.Query.Compilation

namespace PageGraph.Query

def withPredicate (q : Query) (p : Option Predicate) : Query :=
  { q with predicate := p }

def SameSelection (q : Query) (p p' : Option Predicate) : Prop :=
  ∀ pattern anchor c, q.patterns = [pattern] → pattern.lastName? = some anchor →
    (Selected anchor (q.withPredicate p).leaves c ↔ Selected anchor (q.withPredicate p').leaves c)

theorem plan_congr {q : Query} {p p' : Option Predicate} (h : q.SameSelection p p')
    (config : SearchConfig) : (q.withPredicate p).plan config = (q.withPredicate p').plan config := by
  unfold plan
  apply bind_congr_ok
  intro pattern hpattern
  apply bind_congr_ok
  intro roles hroles
  have hlast := ((pattern.roles_eq_ok roles).mp hroles).2.2.2.2
  have hselected : (q.withPredicate p).selected roles.anchor =
      (q.withPredicate p').selected roles.anchor := by
    have hselect : select? roles.anchor (q.withPredicate p).leaves =
        select? roles.anchor (q.withPredicate p').leaves := by
      ext c
      rw [select?_eq_some, select?_eq_some]
      exact h pattern roles.anchor c ((onlyPattern_eq_ok _ _).mp hpattern) hlast
    unfold leaves at hselect
    rw [selected, selected, hselect]
  rw [hselected]
  rfl

inductive Regrouped : Predicate → Predicate → Prop where
  | refl (p) : Regrouped p p
  | symm {p p'} : Regrouped p p' → Regrouped p' p
  | trans {p p' p''} : Regrouped p p' → Regrouped p' p'' → Regrouped p p''
  | congr {l l' r r'} : Regrouped l l' → Regrouped r r' → Regrouped (.and l r) (.and l' r')
  | exchange (l r) : Regrouped (.and l r) (.or l r)
  | assoc (l m r) : Regrouped (.and (.and l m) r) (.and l (.and m r))

def joined (c : Condition) : List Condition → Predicate
  | [] => .condition c
  | d :: ds => .and (.condition c) (joined d ds)

theorem joined_append (c d : Condition) (cs ds : List Condition) :
    Regrouped (.and (joined c cs) (joined d ds)) (joined c (cs ++ d :: ds)) := by
  induction cs generalizing c with
  | nil => exact .refl _
  | cons b cs ih => exact (Regrouped.assoc _ _ _).trans ((Regrouped.refl _).congr (ih b))

theorem regrouped_joined (p : Predicate) :
    ∃ c cs, p.conditions = c :: cs ∧ Regrouped p (joined c cs) := by
  induction p with
  | condition c => exact ⟨c, [], rfl, .refl _⟩
  | and l r ihl ihr =>
    obtain ⟨c, cs, hl, hcs⟩ := ihl
    obtain ⟨d, ds, hr, hds⟩ := ihr
    refine ⟨c, cs ++ d :: ds, by rw [Predicate.conditions, hl, hr, List.cons_append], ?_⟩
    exact (hcs.congr hds).trans (joined_append c d cs ds)
  | or l r ihl ihr =>
    obtain ⟨c, cs, hl, hcs⟩ := ihl
    obtain ⟨d, ds, hr, hds⟩ := ihr
    refine ⟨c, cs ++ d :: ds, by rw [Predicate.conditions, hl, hr, List.cons_append], ?_⟩
    exact (Regrouped.exchange l r).symm.trans ((hcs.congr hds).trans (joined_append c d cs ds))

theorem regrouped_iff (p p' : Predicate) : Regrouped p p' ↔ p.conditions = p'.conditions := by
  constructor
  · intro h
    induction h with
    | refl p => rfl
    | symm _ ih => exact ih.symm
    | trans _ _ ih ih' => exact ih.trans ih'
    | congr _ _ ihl ihr => rw [Predicate.conditions, ihl, ihr, Predicate.conditions]
    | exchange l r => rfl
    | assoc l m r => simp only [Predicate.conditions, List.append_assoc]
  · intro h
    obtain ⟨c, cs, hp, hcs⟩ := regrouped_joined p
    obtain ⟨c', cs', hp', hcs'⟩ := regrouped_joined p'
    rw [hp, hp', List.cons.injEq] at h
    obtain ⟨rfl, rfl⟩ := h
    exact hcs.trans hcs'.symm

def Predicate.edit : Predicate → Nat → Condition → Predicate
  | .condition d, i, c => if i = 0 then .condition c else .condition d
  | .and l r, i, c =>
    if i < l.conditions.length then .and (l.edit i c) r
    else .and l (r.edit (i - l.conditions.length) c)
  | .or l r, i, c =>
    if i < l.conditions.length then .or (l.edit i c) r
    else .or l (r.edit (i - l.conditions.length) c)

theorem conditions_edit (p : Predicate) (i : Nat) (c : Condition) :
    (p.edit i c).conditions = p.conditions.set i c := by
  induction p generalizing i with
  | condition d =>
    rw [Predicate.edit]
    cases i <;> rfl
  | and l r ihl ihr | or l r ihl ihr =>
    rw [Predicate.edit, Predicate.conditions, List.set_append]
    split
    · rw [Predicate.conditions, ihl]
    · rw [Predicate.conditions, ihr]

def selectedPlace (anchor : String) (conditions : List Condition) : Nat :=
  (conditions.findIdx? (·.entity.var = anchor)).getD 0

theorem select?_eq_getElem? (anchor : String) (conditions : List Condition) :
    select? anchor conditions = conditions[selectedPlace anchor conditions]? := by
  rw [select?, selectedPlace, List.find?_eq_bind_findIdx?_getElem?]
  cases h : conditions.findIdx? (·.entity.var = anchor) with
  | none => simp [List.head?_eq_getElem?]
  | some k =>
    have hk : k < conditions.length := (List.findIdx?_eq_some_iff_getElem.mp h).1
    simp [List.getElem?_eq_getElem hk]

theorem selectedPlace_set {anchor : String} {conditions : List Condition} {i : Nat}
    {old c : Condition} (hold : conditions[i]? = some old)
    (hi : i ≠ selectedPlace anchor conditions)
    (hc : c.entity.var = anchor → old.entity.var = anchor) :
    selectedPlace anchor (conditions.set i c) = selectedPlace anchor conditions := by
  obtain ⟨hlt, rfl⟩ := List.getElem?_eq_some_iff.mp hold
  rw [selectedPlace] at hi
  cases h : conditions.findIdx? (·.entity.var = anchor) with
  | none =>
    have hnone : ∀ b ∈ conditions, b.entity.var ≠ anchor := by simpa using h
    have hset : (conditions.set i c).findIdx? (·.entity.var = anchor) = none := by
      rw [List.findIdx?_eq_none_iff]
      intro b hb
      rcases List.mem_or_eq_of_mem_set hb with hb | rfl
      · simpa using hnone b hb
      · simpa using mt hc (hnone _ (List.getElem_mem hlt))
    rw [selectedPlace, selectedPlace, hset, h]
  | some k =>
    rw [h, Option.getD_some] at hi
    obtain ⟨hk, hkth, hbefore⟩ := List.findIdx?_eq_some_iff_getElem.mp h
    have hset : (conditions.set i c).findIdx? (·.entity.var = anchor) = some k := by
      rw [List.findIdx?_eq_some_iff_getElem]
      refine ⟨by simpa using hk, by simpa [List.getElem_set_ne hi] using hkth, ?_⟩
      intro j hj
      have hjth := hbefore j hj
      by_cases hij : i = j
      · subst hij
        simp only [decide_eq_true_eq] at hjth
        simpa using mt hc hjth
      · simpa [List.getElem_set_ne hij] using hjth
    rw [selectedPlace, selectedPlace, hset, h]

theorem select?_set {anchor : String} {conditions : List Condition} {i : Nat}
    {old c : Condition} (hold : conditions[i]? = some old)
    (hi : i ≠ selectedPlace anchor conditions)
    (hc : c.entity.var = anchor → old.entity.var = anchor) :
    select? anchor (conditions.set i c) = select? anchor conditions := by
  rw [select?_eq_getElem?, selectedPlace_set hold hi hc, List.getElem?_set_ne hi,
    select?_eq_getElem?]

theorem Pattern.mem_declared_of_lastName? {p : Pattern} {anchor : String}
    (h : p.lastName? = some anchor) : anchor ∈ p.declared :=
  List.mem_append_left _ (List.mem_of_getLast? h)

def Unselected (q : Query) (p : Predicate) (i : Nat) : Prop :=
  ∀ pattern anchor, q.patterns = [pattern] → pattern.lastName? = some anchor →
    i ≠ selectedPlace anchor p.conditions

theorem plan_edit {q : Query} {p : Predicate} {i : Nat} {old c : Condition}
    (hold : p.conditions[i]? = some old) (hi : q.Unselected p i)
    (hc : c.entity.var = old.entity.var ∨ ∀ pattern ∈ q.patterns,
      c.entity.var ∉ pattern.declared ∨ pattern.lastName? ≠ some c.entity.var)
    (config : SearchConfig) :
    (q.withPredicate (some (p.edit i c))).plan config = (q.withPredicate (some p)).plan config := by
  apply plan_congr
  intro pattern anchor d hpattern hlast
  have habout : c.entity.var = anchor → old.entity.var = anchor := by
    intro hanchor
    rcases hc with hc | hc
    · rw [← hc, hanchor]
    · have hlast' : pattern.lastName? = some c.entity.var := by rw [hlast, hanchor]
      rcases hc pattern (by rw [hpattern]; exact List.mem_singleton_self pattern) with hc | hc
      · exact absurd (Pattern.mem_declared_of_lastName? hlast') hc
      · exact absurd hlast' hc
  have hselect := select?_set hold (hi pattern anchor hpattern hlast) habout
  rw [← conditions_edit] at hselect
  rw [← select?_eq_some, ← select?_eq_some]
  change select? anchor (p.edit i c).conditions = some d ↔ select? anchor p.conditions = some d
  rw [hselect]

theorem plan_regrouped (q : Query) {p p' : Predicate} (h : Regrouped p p') (config : SearchConfig) :
    (q.withPredicate (some p)).plan config = (q.withPredicate (some p')).plan config := by
  apply plan_congr
  intro pattern anchor c _ _
  change Selected anchor p.conditions c ↔ Selected anchor p'.conditions c
  rw [(regrouped_iff p p').mp h]

/-- A plan, and what is wrong where there is none, is a matter of the selected condition alone.
Grouping and connectives do not count, nor does a condition that is not selected, whatever its
property, its operator and its operand; its variable may be any that does not get it selected. -/
theorem plan_ignores_unselected (q : Query) (config : SearchConfig) :
    (∀ p p', q.SameSelection p p' →
      (q.withPredicate p).plan config = (q.withPredicate p').plan config) ∧
    (∀ p p', Regrouped p p' →
      (q.withPredicate (some p)).plan config = (q.withPredicate (some p')).plan config) ∧
    ∀ p i old c, p.conditions[i]? = some old → q.Unselected p i →
      (c.entity.var = old.entity.var ∨ ∀ pattern ∈ q.patterns,
        c.entity.var ∉ pattern.declared ∨ pattern.lastName? ≠ some c.entity.var) →
      (q.withPredicate (some (p.edit i c))).plan config = (q.withPredicate (some p)).plan config := by
  refine ⟨?_, ?_, ?_⟩
  · intro p p' h
    exact plan_congr h config
  · intro p p' h
    exact q.plan_regrouped h config
  · intro p i old c hold hi hc
    exact plan_edit hold hi hc config

def linkedTitles : Query where
  page := none
  patterns := [{
    nodes := [⟨some "t", ["Title"], []⟩, ⟨some "a", ["Link"], []⟩]
    edges := [⟨none, none, .right, none⟩] }]
  predicate := none
  returns := ⟨[⟨"t", none⟩], none, none⟩

def aboutReports : Condition :=
  ⟨⟨"t", some "text"⟩, .eq, .value (.str "Report")⟩

def aboutRisks : Condition :=
  ⟨⟨"a", some "text"⟩, .contains, .value (.str "risks")⟩

def aboutNothing : Condition :=
  ⟨⟨"z", some "colour"⟩, .is, .value .null⟩

def linkedTitlesWhere (p : Predicate) : Except CompileError Plan :=
  (linkedTitles.withPredicate (some p)).plan {}

theorem plan_ignores_unselected_risks :
    linkedTitlesWhere (.and (.condition aboutReports) (.condition aboutRisks)) =
      linkedTitlesWhere (.condition aboutRisks) ∧
    linkedTitlesWhere (.and (.condition aboutReports) (.condition aboutRisks)) =
      linkedTitlesWhere (.or (.condition aboutReports) (.condition aboutRisks)) ∧
    linkedTitlesWhere (.and (.condition aboutNothing) (.condition aboutRisks)) =
      linkedTitlesWhere (.and (.condition aboutReports) (.condition aboutRisks)) ∧
    ∃ plan, linkedTitlesWhere (.condition aboutRisks) = .ok plan := by
  obtain ⟨hselection, hregrouped, hedit⟩ := plan_ignores_unselected linkedTitles {}
  refine ⟨?_, ?_, ?_, ⟨_, rfl⟩⟩
  · apply hselection
    rintro pattern anchor c ⟨⟩ ⟨⟩
    rw [← select?_eq_some, ← select?_eq_some]
    rfl
  · exact hregrouped _ _ (.exchange _ _)
  · refine hedit (.and (.condition aboutReports) (.condition aboutRisks)) 0 aboutReports
      aboutNothing rfl ?_ ?_
    · rintro pattern anchor ⟨⟩ ⟨⟩
      decide
    · refine .inr fun pattern hpattern => .inl ?_
      rw [List.mem_singleton.mp hpattern]
      decide

end PageGraph.Query
