import PageGraph.Classify.Grid
import PageGraph.Proofs.Classify.Marking
import PageGraph.Proofs.Graph.Distance

namespace PageGraph

theorem mem_pairs {r : α → α → Prop} [Std.Asymm r] {xs : List α} (hxs : xs.Pairwise r) (a b : α) :
    (a, b) ∈ pairs xs ↔ a ∈ xs ∧ b ∈ xs ∧ r a b := by
  induction xs with
  | nil => simp [pairs]
  | cons x xs ih =>
    obtain ⟨hx, hxs⟩ := List.pairwise_cons.mp hxs
    simp only [pairs, List.mem_append, List.mem_map, Prod.mk.injEq, ih hxs, List.mem_cons]
    constructor
    · rintro (⟨_, hb, rfl, rfl⟩ | ⟨ha, hb, hab⟩)
      · exact ⟨.inl rfl, .inr hb, hx _ hb⟩
      · exact ⟨.inr ha, .inr hb, hab⟩
    · rintro ⟨rfl | ha, rfl | hb, hab⟩
      · exact absurd hab (Std.Asymm.asymm _ _ hab)
      · exact .inl ⟨b, hb, rfl, rfl⟩
      · exact absurd hab (Std.Asymm.asymm _ _ (hx a ha))
      · exact .inr ⟨ha, hb, hab⟩

namespace Graph

variable {g : Graph} {root : Slot}

theorem mem_map_fst_nodes (g : Graph) (s : Slot) :
    s ∈ g.nodes.map (·.1) ↔ g.contains s = true :=
  List.mem_toFinset.symm.trans (g.mem_live s)

theorem mem_slotsWhere_payload (g : Graph) (s : Slot) :
    s ∈ g.slotsWhere (·.payload.isSome) ↔ (g.payloadAt s).isSome = true := by
  rw [mem_slotsWhere, payloadAt]
  cases g.node? s <;> simp

theorem Simple.mem_payloadDepths (hg : g.Simple) (s : Slot) (d : Nat) :
    (s, d) ∈ g.payloadDepths root ↔ (g.payloadAt s).isSome = true ∧ g.Distance root s d := by
  simp only [payloadDepths, List.mem_filterMap, Option.map_eq_some_iff, Prod.mk.injEq]
  rw [← mem_slotsWhere_payload, ← hg.lookup_depthsFrom]
  constructor
  · rintro ⟨_, hs, _, hd, rfl, rfl⟩
    exact ⟨hs, hd⟩
  · rintro ⟨hs, hd⟩
    exact ⟨s, hs, d, hd, rfl, rfl⟩

theorem pairwise_payloadDepths (g : Graph) (root : Slot) :
    (g.payloadDepths root).Pairwise fun a b => a.1 < b.1 := by
  have hslots : (g.slotsWhere (·.payload.isSome)).Pairwise (· < ·) :=
    g.pairwise_nodes.sublist (List.filter_sublist.map _)
  refine hslots.filterMap _ ?_
  intro s t hst a ha b hb
  obtain ⟨_, _, rfl⟩ := Option.map_eq_some_iff.mp ha
  obtain ⟨_, _, rfl⟩ := Option.map_eq_some_iff.mp hb
  exact hst

/-- Two nodes in node order that have payloads, are equally far from `root` and have the node as
their lowest common ancestor. -/
structure Vote (g : Graph) (root a b s : Slot) : Prop where
  inOrder : a < b
  first : (g.payloadAt a).isSome = true
  second : (g.payloadAt b).isSome = true
  level : ∃ d, g.Distance root a d ∧ g.Distance root b d
  meet : g.lca? a b = some s

theorem mem_pairs_payloadDepths (g : Graph) (root : Slot) (a b : Slot × Nat) :
    (a, b) ∈ pairs (g.payloadDepths root) ↔
      a ∈ g.payloadDepths root ∧ b ∈ g.payloadDepths root ∧ a.1 < b.1 := by
  have : Std.Asymm fun a b : Slot × Nat => a.1 < b.1 := ⟨fun _ _ => Nat.lt_asymm⟩
  exact mem_pairs (g.pairwise_payloadDepths root) a b

theorem Simple.vote_iff (hg : g.Simple) (a b s : Slot) :
    g.Vote root a b s ↔
      ∃ d, ((a, d), (b, d)) ∈ pairs (g.payloadDepths root) ∧ g.lca? a b = some s := by
  simp only [mem_pairs_payloadDepths, hg.mem_payloadDepths]
  constructor
  · rintro ⟨hab, hpa, hpb, ⟨d, hda, hdb⟩, hmeet⟩
    exact ⟨d, ⟨⟨hpa, hda⟩, ⟨hpb, hdb⟩, hab⟩, hmeet⟩
  · rintro ⟨d, ⟨⟨hpa, hda⟩, ⟨hpb, hdb⟩, hab⟩, hmeet⟩
    exact ⟨hab, hpa, hpb, ⟨d, hda, hdb⟩, hmeet⟩

theorem Simple.mem_votes (hg : g.Simple) (s : Slot) :
    s ∈ g.votes root ↔ ∃ a b, g.Vote root a b s := by
  simp only [votes_eq, List.mem_filterMap, hg.vote_iff]
  constructor
  · rintro ⟨⟨⟨a, d⟩, ⟨b, e⟩⟩, hpair, hvote⟩
    obtain ⟨hde, hmeet⟩ := Option.ite_none_right_eq_some.mp hvote
    obtain rfl : d = e := hde
    exact ⟨a, b, d, hpair, hmeet⟩
  · rintro ⟨a, b, d, hpair, hmeet⟩
    exact ⟨((a, d), (b, d)), hpair, (if_pos rfl).trans hmeet⟩

def Uniform (g : Graph) (s : Slot) (f : Node → β) : Prop :=
  ∃ v, ∀ c ∈ g.children s, (g.node? c).map f = some v

theorem Simple.exists_child (hg : g.Simple) {s c : Slot} (hc : c ∈ g.children s) :
    ∃ n, g.node? c = some n :=
  (g.contains_iff c).mp (hg.live _ ((g.mem_children s c).mp hc)).2

theorem Simple.homogeneous_iff (hg : g.Simple) (s : Slot) :
    g.homogeneous s = true ↔
      g.children s ≠ [] ∧ g.Uniform s Node.idPrefix ∧ g.Uniform s (·.labels.first?) := by
  have hlive (c : Slot) (hc : c ∈ g.children s) := hg.exists_child hc
  have hmem (n : Node) : n ∈ (g.children s).filterMap g.node? ↔
      ∃ c ∈ g.children s, g.node? c = some n := List.mem_filterMap
  rw [homogeneous]
  cases hnodes : (g.children s).filterMap g.node? with
  | nil =>
    have hnone : g.children s = [] := by
      refine List.eq_nil_iff_forall_not_mem.mpr ?_
      intro c hc
      obtain ⟨n, hn⟩ := hlive c hc
      have hin := (hmem n).mpr ⟨c, hc, hn⟩
      rw [hnodes] at hin
      contradiction
    simp [hnone]
  | cons n ns =>
    rw [hnodes] at hmem
    have hhead := (hmem n).mp List.mem_cons_self
    simp only [List.all_eq_true, Bool.and_eq_true, decide_eq_true_eq]
    constructor
    · intro hall
      have hsame (m : Node) (hm : m ∈ n :: ns) :
          m.idPrefix = n.idPrefix ∧ m.labels.first? = n.labels.first? := by
        rcases List.mem_cons.mp hm with rfl | hm
        · exact ⟨rfl, rfl⟩
        · exact hall m hm
      refine ⟨?_, ⟨n.idPrefix, ?_⟩, ⟨n.labels.first?, ?_⟩⟩
      · obtain ⟨c, hc, _⟩ := hhead
        exact List.ne_nil_of_mem hc
      · intro c hc
        obtain ⟨m, hm⟩ := hlive c hc
        rw [hm, Option.map_some, (hsame m ((hmem m).mpr ⟨c, hc, hm⟩)).1]
      · intro c hc
        obtain ⟨m, hm⟩ := hlive c hc
        rw [hm, Option.map_some, (hsame m ((hmem m).mpr ⟨c, hc, hm⟩)).2]
    · rintro ⟨_, ⟨p, hp⟩, ⟨l, hl⟩⟩ m hm
      have hvalue (k : Node) (hk : k ∈ n :: ns) : k.idPrefix = p ∧ k.labels.first? = l := by
        obtain ⟨c, hc, hck⟩ := (hmem k).mp hk
        have hpc := hp c hc
        have hlc := hl c hc
        rw [hck, Option.map_some, Option.some.injEq] at hpc hlc
        exact ⟨hpc, hlc⟩
      have hn := hvalue n List.mem_cons_self
      have hm := hvalue m (List.mem_cons_of_mem _ hm)
      exact ⟨hm.1.trans hn.1.symm, hm.2.trans hn.2.symm⟩

def grids (g : Graph) (root : Slot) : List Slot :=
  (g.nodes.map (·.1)).filter fun s => (g.votes root).contains s && g.homogeneous s

theorem nodup_grids (g : Graph) (root : Slot) : (g.grids root).Nodup :=
  g.nodup_map_fst_nodes.filter _

theorem Simple.mem_grids (hg : g.Simple) (s : Slot) :
    s ∈ g.grids root ↔ g.contains s = true ∧ (∃ a b, g.Vote root a b s) ∧
      g.children s ≠ [] ∧ g.Uniform s Node.idPrefix ∧ g.Uniform s (·.labels.first?) := by
  rw [← hg.mem_votes, ← hg.homogeneous_iff, ← mem_map_fst_nodes, grids, List.mem_filter, Bool.and_eq_true,
    List.contains_iff_mem]

theorem gridCandidates_eq (h : g.designatedRoot = .ok root) :
    g.gridCandidates = .ok (g.nodes.filterMap fun (s, n) =>
      if (g.votes root).count s = 0 then none
      else some ⟨s, n.id, (g.votes root).count s, g.homogeneous s⟩) := by
  simp only [gridCandidates, h, bind, Except.bind, pure, Except.pure, getD_tally]

theorem labelGrids_eq (h : g.designatedRoot = .ok root) :
    g.labelGrids = .ok ((g.grids root).foldl (.add .addFront .grid) (.start g)) := by
  simp only [labelGrids, gridCandidates_eq h, bind, Except.bind, pure, Except.pure, Except.ok.injEq]
  congr 1
  rw [List.filter_filterMap, List.map_filterMap, grids, List.filter_map, ← List.filterMap_eq_map,
    List.filterMap_filter]
  refine List.filterMap_congr ?_
  rintro ⟨s, n⟩ _
  by_cases hvote : s ∈ g.votes root
  · have hcount : (g.votes root).count s ≠ 0 := (List.count_pos_iff.mpr hvote).ne'
    cases hhom : g.homogeneous s <;> simp [hvote, hcount, hhom]
  · simp [hvote, List.count_eq_zero_of_not_mem hvote]

end Graph

end PageGraph
