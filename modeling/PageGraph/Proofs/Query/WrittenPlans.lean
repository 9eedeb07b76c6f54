import PageGraph.Proofs.Json.Records
import PageGraph.Query.Plan

namespace PageGraph

open Json

theorem Label.ofJson?_toJson (l : Label) : Label.ofJson? l.toJson = some l :=
  ofName?_name l

theorem MatchKind.ofName?_name (k : MatchKind) : ofName? k.name = some k := by
  cases k <;> rfl

namespace TextMatch

theorem ofJson?_toJson (m : TextMatch) : TextMatch.ofJson? m.toJson = some m := by
  have hkind : MatchKind.ofJson? (.string m.kind.name) = some m.kind := m.kind.ofName?_name
  have hfield : PayloadField.ofJson? (.string m.field.name) = some m.field := m.field.ofName?_name
  have htypes := list?_ofList Label.ofJson?_toJson m.anchorTypes
  rw [TextMatch.ofJson?, toJson, record?_object (by simp) (by simp)]
  simp [Record.required, Record.defaulted, Record.find?_cons, text?, bool?, hkind, hfield, htypes]

def defaults : List (String × Json) :=
  [("field", .string PayloadField.text.name), ("anchorTypes", .array [])]

theorem ofJson?_cons_default {fields : List (String × Json)} {name : String} {value : Json}
    (hdefault : (name, value) ∈ defaults) (hmissing : fields.lookup name = none) :
    ofJson? (.object ((name, value) :: fields)) = ofJson? (.object fields) := by
  have hfield : PayloadField.ofJson? (.string PayloadField.text.name) = some .text :=
    PayloadField.text.ofName?_name
  simp only [defaults, List.mem_cons, Prod.mk.injEq, List.not_mem_nil, or_false] at hdefault
  rcases hdefault with ⟨rfl, rfl⟩ | ⟨rfl, rfl⟩
  · apply bind_record?_cons (by simp) hmissing
    intro r hnone
    simp [Record.required, Record.defaulted, Record.find?_cons, hfield, hnone]
  · apply bind_record?_cons (by simp) hmissing
    intro r hnone
    simp [Record.required, Record.defaulted, Record.find?_cons, list?, hnone]

theorem default_of_missing {fields : List (String × Json)} {m : TextMatch}
    (h : ofJson? (.object fields) = some m) :
    (fields.lookup "field" = none → m.field = .text) ∧
      (fields.lookup "anchorTypes" = none → m.anchorTypes = []) := by
  simp only [ofJson?, Option.bind_eq_bind, Option.bind_eq_some_iff] at h
  obtain ⟨r, hr, query, -, ignoreCase, -, kind, -, field, hfield, types, htypes, hm⟩ := h
  cases hm
  constructor
  · intro hmissing
    rw [defaulted_of_missing hr (by simp) hmissing] at hfield
    exact (Option.some.inj hfield).symm
  · intro hmissing
    rw [defaulted_of_missing hr (by simp) hmissing] at htypes
    exact (Option.some.inj htypes).symm

end TextMatch

namespace Plan

theorem ofJson?_toJson (p : Plan) : ofJson? p.toJson = some p := by
  obtain ⟨page, textMatch, targetTypes, topAnchors, topNeighbours, skipAnchors, containing,
    returns⟩ := p
  have hmatch := textMatch.ofJson?_toJson
  have htypes := list?_ofList Label.ofJson?_toJson targetTypes
  have hreturns := list?_ofTexts returns
  cases page with
  | none =>
    rw [ofJson?, toJson, record?_object (by simp [optionalField]) (by simp [optionalField])]
    simp [optionalField, Record.required, Record.defaulted, Record.find?_cons, Record.find?_nil,
      bool?, uint64?_ofNat, hmatch, htypes, hreturns]
  | some page =>
    have hpage : nullable? text? (.string page) = some (some page) := rfl
    rw [ofJson?, toJson, record?_object (by simp [optionalField]) (by simp [optionalField])]
    simp [optionalField, Record.required, Record.defaulted, Record.find?_cons, bool?,
      uint64?_ofNat, hpage, hmatch, htypes, hreturns]

def defaults : List (String × Json) :=
  [("pageUrl", .null), ("skipAnchors", .ofNat 0), ("returns", .array [])]

theorem ofJson?_cons_default {fields : List (String × Json)} {name : String} {value : Json}
    (hdefault : (name, value) ∈ defaults) (hmissing : fields.lookup name = none) :
    ofJson? (.object ((name, value) :: fields)) = ofJson? (.object fields) := by
  have hzero : uint64? (.ofNat 0) = some 0 := uint64?_ofNat 0
  simp only [defaults, List.mem_cons, Prod.mk.injEq, List.not_mem_nil, or_false] at hdefault
  rcases hdefault with ⟨rfl, rfl⟩ | ⟨rfl, rfl⟩ | ⟨rfl, rfl⟩
  · apply bind_record?_cons (by simp) hmissing
    intro r hnone
    simp [Record.required, Record.defaulted, Record.find?_cons, nullable?, hnone]
  · apply bind_record?_cons (by simp) hmissing
    intro r hnone
    simp [Record.required, Record.defaulted, Record.find?_cons, hzero, hnone]
  · apply bind_record?_cons (by simp) hmissing
    intro r hnone
    simp [Record.required, Record.defaulted, Record.find?_cons, list?, hnone]

theorem default_of_missing {fields : List (String × Json)} {p : Plan}
    (h : ofJson? (.object fields) = some p) :
    (fields.lookup "pageUrl" = none → p.page = none) ∧
      (fields.lookup "skipAnchors" = none → p.skipAnchors = 0) ∧
      (fields.lookup "returns" = none → p.returns = []) ∧
      (fields.lookup "textMatch").bind TextMatch.ofJson? = some p.textMatch := by
  simp only [ofJson?, Option.bind_eq_bind, Option.bind_eq_some_iff] at h
  obtain ⟨r, hr, page, hpage, textMatch, htextMatch, types, -, top, -, neighbours, -, skip, hskip,
    containing, -, returns, hreturns, hp⟩ := h
  cases hp
  refine ⟨?_, ?_, ?_, ?_⟩
  · intro hmissing
    rw [defaulted_of_missing hr (by simp) hmissing] at hpage
    exact (Option.some.inj hpage).symm
  · intro hmissing
    rw [defaulted_of_missing hr (by simp) hmissing] at hskip
    exact (Option.some.inj hskip).symm
  · intro hmissing
    rw [defaulted_of_missing hr (by simp) hmissing] at hreturns
    exact (Option.some.inj hreturns).symm
  · rwa [Record.required, find?_of_record? hr (by simp)] at htextMatch

theorem ofJson?_written_or_missing :
    (∀ p : Plan, ofJson? p.toJson = some p) ∧
    (∀ p : Plan, ∃ fields, p.toJson = .object fields ∧
      fields.lookup "pageUrl" = p.page.map .string) ∧
    (∀ j p, ofJson? j = some p → ofJson? p.toJson = some p) ∧
    (∀ fields p, ofJson? (.object fields) = some p →
      (fields.lookup "pageUrl" = none → p.page = none) ∧
      (fields.lookup "skipAnchors" = none → p.skipAnchors = 0) ∧
      (fields.lookup "returns" = none → p.returns = []) ∧
      ∀ inner, fields.lookup "textMatch" = some (.object inner) →
        (inner.lookup "field" = none → p.textMatch.field = .text) ∧
        (inner.lookup "anchorTypes" = none → p.textMatch.anchorTypes = [])) ∧
    (∀ fields name value, (name, value) ∈ defaults → fields.lookup name = none →
      ofJson? (.object ((name, value) :: fields)) = ofJson? (.object fields)) ∧
    ∀ fields name value, (name, value) ∈ TextMatch.defaults → fields.lookup name = none →
      TextMatch.ofJson? (.object ((name, value) :: fields)) =
        TextMatch.ofJson? (.object fields) := by
  refine ⟨ofJson?_toJson, ?_, fun _ p _ => ofJson?_toJson p, ?_, ?_, ?_⟩
  · intro p
    refine ⟨_, rfl, ?_⟩
    cases p.page <;> simp [optionalField, List.lookup_cons]
  · intro fields p h
    obtain ⟨hpage, hskip, hreturns, htextMatch⟩ := default_of_missing h
    refine ⟨hpage, hskip, hreturns, ?_⟩
    intro inner hinner
    rw [hinner, Option.bind_some] at htextMatch
    exact TextMatch.default_of_missing htextMatch
  · intro fields name value
    exact ofJson?_cons_default
  · intro fields name value
    exact TextMatch.ofJson?_cons_default

def sparse : List (String × Json) := [
  ("textMatch", .object [
    ("query", .string "risks"), ("caseInsensitive", .bool true), ("matchKind", .string "contains")]),
  ("targetTypes", .array [.string "grid"]),
  ("topKAnchors", .number "10"), ("topKNeighbors", .number "18446744073709551615"),
  ("requireAncestorInclusion", .bool true)]

theorem ofJson?_written_or_missing_sparse :
    ∃ p : Plan, ofJson? (.object sparse) = some p ∧ ofJson? p.toJson = some p ∧
      p.page = none ∧ p.skipAnchors = 0 ∧ p.returns = [] ∧ p.textMatch.field = .text ∧
      p.textMatch.anchorTypes = [] ∧
      ofJson? (.object (("skipAnchors", .ofNat 0) :: sparse)) = some p := by
  obtain ⟨p, hp⟩ : ∃ p, ofJson? (.object sparse) = some p :=
    Option.isSome_iff_exists.mp (by decide +kernel)
  obtain ⟨-, -, hagain, hmissing, hcons, -⟩ := ofJson?_written_or_missing
  obtain ⟨hpage, hskip, hreturns, hinner⟩ := hmissing sparse p hp
  obtain ⟨hfield, htypes⟩ := hinner _ rfl
  refine ⟨p, hp, hagain _ p hp, hpage rfl, hskip rfl, hreturns rfl, hfield rfl, htypes rfl, ?_⟩
  rw [hcons sparse "skipAnchors" (.ofNat 0) (by simp [defaults]) rfl, hp]

end Plan

end PageGraph
