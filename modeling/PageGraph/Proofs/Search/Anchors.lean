import PageGraph.Proofs.Graph.Change
import PageGraph.Proofs.Search.Rounding
import PageGraph.Proofs.Search.WideWindow
import PageGraph.Proofs.StableSort
import PageGraph.Search.Anchor

namespace PageGraph

namespace Anchor

def Searches (m : TextMatch) (n : Node) (text : String) : Prop :=
  (m.anchorTypes = [] ∨ ∃ l ∈ m.anchorTypes, l ∈ n.labels.toList) ∧
    ∃ payload, n.payload = some payload ∧ m.field.read? payload = some text

theorem searched?_eq_some {m : TextMatch} {n : Node} {text : String} :
    searched? m n = some text ↔ Searches m n text := by
  have htypes : (m.anchorTypes.isEmpty || n.labels.meets m.anchorTypes) = true ↔
      m.anchorTypes = [] ∨ ∃ l ∈ m.anchorTypes, l ∈ n.labels.toList := by
    simp [LabelSet.meets, and_comm]
  rw [searched?, Option.ite_none_right_eq_some, htypes, Option.bind_eq_some_iff, Searches]

section Nodes

variable {m : TextMatch} {window : UInt64} {s : Slot} {n : Node}

theorem ofNode?_of_none (h : searched? m n = none) : ofNode? m window s n = .ok none := by
  simp only [ofNode?, h]

theorem ofNode?_of_some {text : String} (h : searched? m n = some text) :
    ofNode? m window s n = (Hit.find? m.kind m.ignoreCase window m.query text).map fun found =>
      found.map fun hit => ⟨s, n.id, hit⟩ := by
  simp only [ofNode?, h]

theorem ofNode?_eq_ok_some {a : Anchor} :
    ofNode? m window s n = .ok (some a) ↔ a.slot = s ∧ a.id = n.id ∧ ∃ text, Searches m n text ∧
      Hit.find? m.kind m.ignoreCase window m.query text = .ok (some a.hit) := by
  cases htext : searched? m n with
  | none =>
    rw [ofNode?_of_none htext]
    constructor
    · nofun
    · rintro ⟨_, _, text, hsearches, _⟩
      rw [searched?_eq_some.mpr hsearches] at htext
      contradiction
  | some text =>
    rw [ofNode?_of_some htext, map_eq_ok]
    constructor
    · rintro ⟨found, hfound, h⟩
      obtain ⟨hit, rfl, rfl⟩ := Option.map_eq_some_iff.mp h
      exact ⟨rfl, rfl, text, searched?_eq_some.mp htext, hfound⟩
    · rintro ⟨rfl, hid, text', hsearches, hfound⟩
      cases htext.symm.trans (searched?_eq_some.mpr hsearches)
      exact ⟨_, hfound, by rw [Option.map_some, ← hid]⟩

theorem exists_ofNode?_iff :
    (∃ found, ofNode? m window s n = .ok found) ↔
      ∀ text, Searches m n text → Hit.Fits m.kind m.ignoreCase window m.query text := by
  simp only [← searched?_eq_some]
  cases htext : searched? m n with
  | none => simp [ofNode?_of_none htext]
  | some text => simp [ofNode?_of_some htext, map_eq_ok, ← Hit.exists_find?_iff]

theorem eq_sumTooLarge_of_ofNode? {f : Fault} (h : ofNode? m window s n = .error f) :
    f = .sumTooLarge := by
  cases htext : searched? m n with
  | none =>
    rw [ofNode?_of_none htext] at h
    contradiction
  | some text =>
    rw [ofNode?_of_some htext, map_eq_error] at h
    exact (Hit.find?_eq_error_iff.mp h).1

end Nodes

theorem better_iff (a b : Anchor) :
    a.better b = true ↔ b.hit.score.value ≤ a.hit.score.value := by
  rw [better, decide_eq_true_eq, ← not_lt, ← not_lt, Score.value_lt_value_iff]

theorem better_trans (a b c : Anchor) (hab : a.better b = true) (hbc : b.better c = true) :
    a.better c = true := by
  rw [better_iff] at *
  exact hbc.trans hab

theorem better_total (a b : Anchor) : (a.better b || b.better a) = true := by
  rw [Bool.or_eq_true, better_iff, better_iff]
  exact le_total _ _

end Anchor

namespace Graph

def Fits (g : Graph) (m : TextMatch) (window : UInt64) : Prop :=
  ∀ s n text, g.node? s = some n → Anchor.Searches m n text →
    Hit.Fits m.kind m.ignoreCase window m.query text

theorem exists_anchors_iff (g : Graph) (m : TextMatch) (window : UInt64) :
    (∃ as, g.anchors m window = .ok as) ↔ g.Fits m window := by
  have hall : (∃ found, g.nodes.mapM (fun d => Anchor.ofNode? m window d.1 d.2) = .ok found) ↔
      g.Fits m window := by
    rw [exists_mapM_iff]
    simp only [Prod.forall, mem_nodes, Anchor.exists_ofNode?_iff, Fits]
    exact ⟨fun h s n text hn => h s n hn text, fun h s n hn text => h s n text hn⟩
  rw [← hall]
  constructor
  · rintro ⟨as, h⟩
    obtain ⟨found, hfound, _⟩ := bind_eq_ok.mp h
    exact ⟨found, hfound⟩
  · rintro ⟨found, hfound⟩
    exact ⟨_, bind_eq_ok.mpr ⟨found, hfound, rfl⟩⟩

theorem anchors_of_not_fits {g : Graph} {m : TextMatch} {window : UInt64}
    (h : ¬ g.Fits m window) : g.anchors m window = .error .sumTooLarge := by
  cases hanchors : g.anchors m window with
  | ok as => exact absurd ((g.exists_anchors_iff m window).mp ⟨as, hanchors⟩) h
  | error f =>
    rcases bind_eq_error.mp hanchors with hfound | ⟨_, _, hfound⟩
    · obtain ⟨⟨s, n⟩, _, hnode⟩ := exists_of_mapM_eq_error hfound
      rw [Anchor.eq_sumTooLarge_of_ofNode? hnode]
    · contradiction

def found? (m : TextMatch) (window : UInt64) (d : Slot × Node) : Option Anchor :=
  (Anchor.ofNode? m window d.1 d.2).toOption.join

theorem found?_eq_some {m : TextMatch} {window : UInt64} {d : Slot × Node} {a : Anchor} :
    found? m window d = some a ↔ Anchor.ofNode? m window d.1 d.2 = .ok (some a) := by
  rw [found?, Option.join_eq_some_iff, toOption_eq_some]

theorem pairwise_slots_found (g : Graph) (m : TextMatch) (window : UInt64) :
    (g.nodes.filterMap (found? m window)).Pairwise fun a b => a.slot < b.slot := by
  refine List.Pairwise.filterMap _ ?_ (List.pairwise_map.mp g.pairwise_nodes)
  intro d e hde a ha b hb
  rwa [(Anchor.ofNode?_eq_ok_some.mp (found?_eq_some.mp ha)).1,
    (Anchor.ofNode?_eq_ok_some.mp (found?_eq_some.mp hb)).1]

section Found

variable {g : Graph} {m : TextMatch} {window : UInt64} {as : List Anchor}
  (has : g.anchors m window = .ok as)
include has

theorem anchors_eq : as = (g.nodes.filterMap (found? m window)).mergeSort Anchor.better := by
  obtain ⟨found, hfound, h⟩ := bind_eq_ok.mp has
  obtain ⟨_, rfl⟩ := (mapM_eq_ok (fun _ _ => toOption_eq_some.symm) _ _).mp hfound
  rw [← Except.ok.inj h, List.filterMap_filterMap]
  rfl

theorem mem_anchors (a : Anchor) : a ∈ as ↔
    ∃ n, g.node? a.slot = some n ∧ Anchor.ofNode? m window a.slot n = .ok (some a) := by
  rw [anchors_eq has, List.mem_mergeSort, List.mem_filterMap]
  constructor
  · rintro ⟨⟨s, n⟩, hn, ha⟩
    have ha := found?_eq_some.mp ha
    obtain ⟨rfl, _⟩ := Anchor.ofNode?_eq_ok_some.mp ha
    exact ⟨n, (mem_nodes g _ n).mp hn, ha⟩
  · rintro ⟨n, hn, ha⟩
    exact ⟨(a.slot, n), (mem_nodes g _ n).mpr hn, found?_eq_some.mpr ha⟩

theorem node?_of_mem_anchors {a : Anchor} (ha : a ∈ as) :
    ∃ n, g.node? a.slot = some n ∧ a.id = n.id := by
  obtain ⟨n, hn, ha⟩ := (mem_anchors has a).mp ha
  exact ⟨n, hn, (Anchor.ofNode?_eq_ok_some.mp ha).2.1⟩

theorem nodup_slots_anchors : (as.map (·.slot)).Nodup := by
  rw [anchors_eq has, ((List.mergeSort_perm _ Anchor.better).map _).nodup_iff]
  exact List.pairwise_map.mpr ((g.pairwise_slots_found m window).imp Nat.ne_of_lt)

theorem pairwise_anchors :
    as.Pairwise fun a b => a.better b = true ∧ (b.better a = true → a.slot < b.slot) := by
  rw [anchors_eq has]
  exact (List.pairwise_mergeSort Anchor.better_trans Anchor.better_total _).and
    (pairwise_mergeSort_of_pairwise Anchor.better_trans Anchor.better_total
      (g.pairwise_slots_found m window))

theorem Consistent.nodup_ids_anchors (hg : g.Consistent) : (as.map (·.id)).Nodup := by
  have hslots := List.pairwise_map.mp (nodup_slots_anchors has)
  refine List.pairwise_map.mpr (hslots.imp_of_mem ?_)
  intro a b ha hb hne hid
  obtain ⟨n, hn, han⟩ := node?_of_mem_anchors has ha
  obtain ⟨k, hk, hbk⟩ := node?_of_mem_anchors has hb
  exact hne (hg.ids a.slot b.slot n k hn hk (by rw [← han, ← hbk, hid]))

end Found

theorem anchors_ranked (g : Graph) (m : TextMatch) (window : UInt64) :
    ((∃ as, g.anchors m window = .ok as) ↔ g.Fits m window) ∧
    (¬ g.Fits m window → g.anchors m window = .error .sumTooLarge) ∧
    ∀ as, g.anchors m window = .ok as →
      (∀ a : Anchor, a ∈ as ↔ ∃ n text, g.node? a.slot = some n ∧ a.id = n.id ∧
        Anchor.Searches m n text ∧
        Hit.find? m.kind m.ignoreCase window m.query text = .ok (some a.hit)) ∧
      (as.map (·.slot)).Nodup ∧
      as.Pairwise fun a b => b.hit.score.value < a.hit.score.value ∨
        b.hit.score.value = a.hit.score.value ∧ a.slot < b.slot := by
  refine ⟨g.exists_anchors_iff m window, anchors_of_not_fits, fun as has => ?_⟩
  refine ⟨fun a => ?_, nodup_slots_anchors has, ?_⟩
  · rw [mem_anchors has]
    simp only [Anchor.ofNode?_eq_ok_some, true_and]
    constructor
    · rintro ⟨n, hn, hid, text, hsearches, hhit⟩
      exact ⟨n, text, hn, hid, hsearches, hhit⟩
    · rintro ⟨n, text, hn, hid, hsearches, hhit⟩
      exact ⟨n, hn, hid, text, hsearches, hhit⟩
  · refine (pairwise_anchors has).imp fun {a b} ⟨hab, hba⟩ => ?_
    rw [Anchor.better_iff] at hab hba
    rcases hab.lt_or_eq with hlt | heq
    · exact .inl hlt
    · exact .inr ⟨heq, hba heq.ge⟩

def risks : Graph where
  slots := #[
    some ⟨"h1_1", "h1", "h1", 0, [], some { text := "Key risks ahead" }, true, .ofList [], none⟩,
    some ⟨"p_1", "p", "p", 1, [], some { text := "Risks" }, false, .ofList [], some 0⟩]
  free := []
  edges := [(0, 1)]

def risksMatch : TextMatch where
  query := "Risks"
  ignoreCase := true
  kind := .contains

theorem anchors_ranked_risks :
    (∃ as, risks.anchors risksMatch 50 = .ok as ∧ (as.map (·.slot)).Nodup ∧
      ⟨1, "p_1", .one, "...risks..."⟩ ∈ as ∧
      ⟨0, "h1_1", .ofRatio 5 15, "...key risks ahead..."⟩ ∈ as) ∧
    risks.anchors risksMatch Hit.widest = .error .sumTooLarge := by
  have hok : (risks.anchors risksMatch 50).isOk = true := by decide +kernel
  have hstops : risks.anchors risksMatch Hit.widest = .error .sumTooLarge := by decide +kernel
  have hshort : Hit.find? .contains true 50 "Risks" "Risks" = .ok (some ⟨.one, "...risks..."⟩) := by
    decide +kernel
  have hlong : Hit.find? .contains true 50 "Risks" "Key risks ahead" =
      .ok (some ⟨.ofRatio 5 15, "...key risks ahead..."⟩) := by decide +kernel
  obtain ⟨_, _, hranked⟩ := anchors_ranked risks risksMatch 50
  obtain ⟨hwide, hfails, _⟩ := anchors_ranked risks risksMatch Hit.widest
  refine ⟨?_, ?_⟩
  · cases has : risks.anchors risksMatch 50 with
    | error f =>
      rw [has] at hok
      contradiction
    | ok as =>
      obtain ⟨hmem, hnodup, _⟩ := hranked as has
      refine ⟨as, rfl, hnodup, ?_, ?_⟩
      · exact (hmem _).mpr ⟨_, "Risks", rfl, rfl, ⟨.inl rfl, _, rfl, rfl⟩, hshort⟩
      · exact (hmem _).mpr ⟨_, "Key risks ahead", rfl, rfl, ⟨.inl rfl, _, rfl, rfl⟩, hlong⟩
  · refine hfails ?_
    rw [← hwide]
    rintro ⟨as, has⟩
    rw [hstops] at has
    contradiction

/-- The window fits the second text, but the first one makes the search stop. -/
theorem anchor_lost_risks :
    (∃ n hit, risks.node? 1 = some n ∧
      Hit.find? .contains true (Hit.widest - 5) "Risks" "Risks" = .ok (some hit) ∧
      Anchor.ofNode? risksMatch (Hit.widest - 5) 1 n = .ok (some ⟨1, "p_1", hit⟩)) ∧
    ∀ as, risks.anchors risksMatch (Hit.widest - 5) ≠ .ok as := by
  have hfound : Hit.find? .contains true (Hit.widest - 5) "Risks" "Risks" =
      .ok (some ⟨.one, "...risks..."⟩) := by decide +kernel
  have hstops : risks.anchors risksMatch (Hit.widest - 5) = .error .sumTooLarge := by
    decide +kernel
  refine ⟨⟨_, _, rfl, hfound, ?_⟩, ?_⟩
  · rw [Anchor.ofNode?_eq_ok_some]
    exact ⟨rfl, rfl, "Risks", ⟨.inl rfl, _, rfl, rfl⟩, hfound⟩
  · intro as has
    rw [hstops] at has
    contradiction

end Graph

end PageGraph
