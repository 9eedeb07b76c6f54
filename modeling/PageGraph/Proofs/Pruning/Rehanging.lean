import PageGraph.Proofs.Pruning.Forests

namespace PageGraph.Graph

def classesAt (g : Graph) (s : Slot) : List String :=
  ((g.node? s).map (·.classes)).getD []

def Inherits (g h : Graph) : Prop :=
  ∀ t m, h.node? t = some m → ∃ n between, g.node? t = some n ∧
    (between ++ [t]).IsChain g.Edge ∧ (∀ s ∈ between, h.contains s = false) ∧
    m.classes = between.flatMap g.classesAt ++ n.classes ∧
    ∀ p, h.Edge p t → (p :: (between ++ [t])).IsChain g.Edge

theorem inherits_refl (g : Graph) : g.Inherits g := by
  intro t m hm
  refine ⟨m, [], hm, .singleton t, by simp, rfl, ?_⟩
  intro p hp
  exact List.isChain_pair.mpr hp

theorem Inherits.dissolved {g h : Graph} (hi : g.Inherits h) (hh : h.Forest) {s : Slot}
    {gone : Node} (hs : h.node? s = some gone) : g.Inherits (h.dissolved s gone) := by
  have hlive := (contains_iff h s).mpr ⟨gone, hs⟩
  have hedge := edge_dissolved hh.simple s gone hlive
  have hgone (q : Slot) (hq : q = s ∨ h.contains q = false) :
      (h.dissolved s gone).contains q = false := by
    rw [← Bool.not_eq_true, contains_dissolved hh.simple]
    rintro ⟨hne, hin⟩
    rcases hq with rfl | hq
    · exact hne rfl
    · rw [hq] at hin
      contradiction
  intro t m hm
  rw [node?_dissolved hh.simple] at hm
  split at hm
  · contradiction
  split at hm
  · next hts hchild =>
    -- What is removed comes between the way above it and the way from it down to its child.
    obtain ⟨m, hm', rfl⟩ := Option.map_eq_some_iff.mp hm
    have hst : h.Edge s t := (mem_children h s t).mp hchild
    obtain ⟨ns, above, hns, habove, hagone, haclasses, hatop⟩ := hi s gone hs
    obtain ⟨n, below, hn, _, hbgone, hbclasses, hbtop⟩ := hi t m hm'
    have hdown := hbtop s hst
    refine ⟨n, above ++ s :: below, hn, ?_, ?_, ?_, ?_⟩
    · rw [List.append_assoc, List.cons_append]
      exact List.isChain_split.mpr ⟨habove, hdown⟩
    · intro q hq
      apply hgone
      rcases List.mem_append.mp hq with hq | hq
      · exact .inr (hagone q hq)
      · exact (List.mem_cons.mp hq).imp_right (hbgone q)
    · have hsclasses : g.classesAt s = ns.classes := by
        rw [classesAt, hns]
        rfl
      rw [List.flatMap_append, List.flatMap_cons, hsclasses]
      simp only [Node.inheriting, haclasses, hbclasses, List.append_assoc]
    · intro p hp
      obtain ⟨hp, hps, _⟩ := (hedge p t).mp hp
      rcases hp with hp | ⟨hp, _⟩
      · exact absurd (hh.unique p s t hp hst) hps
      · rw [List.append_assoc, List.cons_append, ← List.cons_append]
        exact List.isChain_split.mpr ⟨hatop p hp, hdown⟩
  · next hts hchild =>
    obtain ⟨n, between, hn, hchain, hbgone, hclasses, htop⟩ := hi t m hm
    refine ⟨n, between, hn, hchain, fun q hq => hgone q (.inr (hbgone q hq)), hclasses, ?_⟩
    intro p hp
    rcases ((hedge p t).mp hp).1 with hp | ⟨_, hst⟩
    · exact htop p hp
    · exact absurd ((mem_children h s t).mpr hst) hchild

theorem Inherits.dissolves {g h k : Graph} {ss : List Slot} (hi : g.Inherits h) (hh : h.Forest)
    (d : Dissolves h ss k) : g.Inherits k := by
  induction d with
  | nil h => exact hi
  | cons gone hs d ih => exact ih (hi.dissolved hh hs) (hh.dissolved _ gone hs)

inductive Rounds (config : PruneConfig) : Graph → Graph → Prop where
  | done {g : Graph} (h : g.removable config = []) : Rounds config g g
  | round {g g' h : Graph} {ss : List Slot} (hne : g.removable config ≠ [])
      (hss : ss.Perm ((g.removable config).map (·.1))) (d : Dissolves g ss g')
      (r : Rounds config g' h) : Rounds config g h

theorem Passes.rounds {config : PruneConfig} {g h : Graph} {r r' : PruneReport}
    (p : Passes config g r h r') : Rounds config g h := by
  induction p with
  | done r hr => exact .done hr
  | pass hne d p ih => exact .round hne (.refl _) d ih

namespace Rounds

variable {config : PruneConfig} {g h : Graph}

theorem forest (r : Rounds config g h) (hg : g.Forest) : h.Forest := by
  induction r with
  | done hr => exact hg
  | round hne hss d r ih => exact ih (d.forest hg)

theorem torso (r : Rounds config g h) (hg : g.Simple) : Torso g h := by
  induction r with
  | done hr => exact .refl hg
  | round hne hss d r ih => exact (d.torso hg).trans (ih (d.simple hg))

theorem inherits {k : Graph} (r : Rounds config h k) (hi : g.Inherits h) (hh : h.Forest) :
    g.Inherits k := by
  induction r with
  | done hr => exact hi
  | round hne hss d r ih => exact ih (hi.dissolves hh d) (d.forest hh)

theorem inDegree_eq_zero_iff (r : Rounds config g h) (hg : g.Simple) {s : Slot}
    (hs : h.contains s = true) : h.inDegree s = 0 ↔ g.inDegree s = 0 := by
  induction r with
  | done hr => rfl
  | round hne hss d r ih =>
    have hg' := d.simple hg
    rw [ih hg' hs, d.inDegree_eq_zero_iff hg ?_ ((r.torso hg').contains hs)]
    intro q hq
    exact light_removable _ config q (hss.mem_iff.mp hq)

end Rounds

theorem Forest.above_of_chain {g : Graph} (hg : g.Forest) {p t : Slot} {between : List Slot}
    (hchain : (p :: (between ++ [t])).IsChain g.Edge) {q : Slot}
    (hq : Relation.TransGen g.Edge q t) : q ∈ between ∨ Relation.ReflTransGen g.Edge q p := by
  induction between using List.reverseRecOn generalizing t with
  | nil =>
    have hpt : g.Edge p t := List.isChain_pair.mp hchain
    obtain ⟨r, hqr, hrt⟩ := Relation.TransGen.tail'_iff.mp hq
    exact .inr (hg.unique r p t hrt hpt ▸ hqr)
  | append_singleton between b ih =>
    rw [List.append_assoc, ← List.cons_append, List.singleton_append] at hchain
    obtain ⟨habove, hbt⟩ := List.isChain_split.mp hchain
    obtain ⟨r, hqr, hrt⟩ := Relation.TransGen.tail'_iff.mp hq
    obtain rfl := hg.unique r b t hrt (List.isChain_pair.mp hbt)
    rcases Relation.reflTransGen_iff_eq_or_transGen.mp hqr with rfl | hqr
    · exact .inl (by simp)
    · exact (ih habove hqr).imp_left (List.mem_append_left _)

theorem eq_nil_of_isChain {g : Graph} {t : Slot} {between : List Slot} (ht : g.parents t = [])
    (hchain : (between ++ [t]).IsChain g.Edge) : between = [] := by
  cases between using List.reverseRecOn with
  | nil => rfl
  | append_singleton between b =>
    rw [List.append_assoc, List.singleton_append] at hchain
    have hbt := List.isChain_pair.mp (List.isChain_split.mp hchain).2
    have hmem := (mem_parents g t b).mpr hbt
    rw [ht] at hmem
    contradiction

/-- What is left of a forest: each node below the nearest of its ancestors that are left, with the
classes of the nodes that were between them, outermost first. -/
structure Rehung (g h : Graph) : Prop where
  below : ∀ t m, h.node? t = some m → g.parents t ≠ [] → ∃ n p between, g.node? t = some n ∧
    (p :: (between ++ [t])).IsChain g.Edge ∧
    h.contains p = true ∧ (∀ s ∈ between, h.contains s = false) ∧
    (∀ q, Relation.TransGen g.Edge q t → h.contains q = true → Relation.ReflTransGen g.Edge q p) ∧
    h.parents t = [p] ∧ m.parent = some p ∧
    m.classes = between.flatMap g.classesAt ++ n.classes
  top : ∀ t m, h.node? t = some m → g.parents t = [] → ∃ n, g.node? t = some n ∧
    h.parents t = [] ∧ m.parent = none ∧ m.classes = n.classes

theorem Rounds.rehung {config : PruneConfig} {g h : Graph} (r : Rounds config g h)
    (hg : g.Forest) : g.Rehung h.settled := by
  have hh := r.forest hg
  have hlive (t : Slot) (m : Node) (hm : h.settled.node? t = some m) : h.contains t = true := by
    rw [← contains_settled]
    exact (contains_iff _ t).mpr ⟨m, hm⟩
  constructor
  · intro t m hm hparents
    have ht := hlive t m hm
    rw [node?_settled] at hm
    obtain ⟨m, hm', rfl⟩ := Option.map_eq_some_iff.mp hm
    obtain ⟨n, between, hn, _, hgone, hclasses, htop⟩ := r.inherits g.inherits_refl hg t m hm'
    have hin : h.inDegree t ≠ 0 := by
      rw [Ne, r.inDegree_eq_zero_iff hg.simple ht, inDegree, List.length_eq_zero_iff]
      exact hparents
    obtain ⟨p, hp⟩ : ∃ p, h.parents t = [p] := by
      have hone := hh.inDegree_le_one t
      exact List.length_eq_one_iff.mp (by rw [inDegree] at hone hin; omega)
    have hpt : h.Edge p t := (mem_parents h t p).mp (by rw [hp]; exact List.mem_singleton_self p)
    refine ⟨n, p, between, hn, htop p hpt, ?_, ?_, ?_, hp, by rw [hp]; rfl, hclasses⟩
    · rw [contains_settled]
      exact hh.simple.contains_left hpt
    · intro s hs
      rw [contains_settled]
      exact hgone s hs
    · intro q hq hstays
      rw [contains_settled] at hstays
      refine (hg.above_of_chain (htop p hpt) hq).resolve_left ?_
      intro hbetween
      rw [hgone q hbetween] at hstays
      contradiction
  · intro t m hm hparents
    have ht := hlive t m hm
    rw [node?_settled] at hm
    obtain ⟨m, hm', rfl⟩ := Option.map_eq_some_iff.mp hm
    obtain ⟨n, between, hn, hchain, _, hclasses, _⟩ := r.inherits g.inherits_refl hg t m hm'
    have hnone : h.parents t = [] := by
      rw [← List.length_eq_zero_iff, ← inDegree, r.inDegree_eq_zero_iff hg.simple ht, inDegree,
        hparents]
      rfl
    rw [eq_nil_of_isChain hparents hchain] at hclasses
    exact ⟨n, hn, hnone, by rw [hnone]; rfl, hclasses⟩

structure Alike (g h : Graph) : Prop where
  node : ∀ s, (g.node? s).map Node.fixed = (h.node? s).map Node.fixed
  edge : ∀ s t, g.Edge s t ↔ h.Edge s t

namespace Alike

variable {g h g' h' : Graph}

theorem symm (a : Alike g h) : Alike h g :=
  ⟨fun s => (a.node s).symm, fun s t => (a.edge s t).symm⟩

theorem contains (a : Alike g h) (s : Slot) : g.contains s = h.contains s := by
  have hs := congrArg Option.isSome (a.node s)
  rwa [Option.isSome_map, Option.isSome_map] at hs

theorem walk (a : Alike g h) {P : Slot → Prop} {s t : Slot} (w : g.Walk P s t) : h.Walk P s t := by
  induction w with
  | single he => exact .single ((a.edge _ _).mp he)
  | cons he ht w ih => exact .cons ((a.edge _ _).mp he) ht ih

theorem perm_edges (a : Alike g h) (hg : g.Simple) (hh : h.Simple) : g.edges.Perm h.edges :=
  (List.perm_ext_iff_of_nodup hg.nodup hh.nodup).mpr fun e => a.edge e.1 e.2

theorem mem_removable (a : Alike g h) (hg : g.Simple) (hh : h.Simple) {config : PruneConfig}
    {s : Slot} (hs : s ∈ (g.removable config).map (·.1)) :
    s ∈ (h.removable config).map (·.1) := by
  obtain ⟨e, he, rfl⟩ := List.mem_map.mp hs
  have hn := ((Graph.mem_removable g config e.1 e.2).mp he).1
  have hnode := a.node e.1
  rw [hn, Option.map_some, eq_comm, Option.map_eq_some_iff] at hnode
  obtain ⟨m, hm, hfixed⟩ := hnode
  obtain ⟨_, htag, _, _, hpayload, _⟩ := (Node.fixed_eq_iff m e.2).mp hfixed
  have hin : g.inDegree e.1 = h.inDegree e.1 :=
    (((a.perm_edges hg hh).filter _).map _).length_eq
  have hout : g.outDegree e.1 = h.outDegree e.1 :=
    (((a.perm_edges hg hh).filter _).map _).length_eq
  rw [mem_map_removable config hn] at hs
  rw [mem_map_removable config hm, htag, hpayload, ← hin, ← hout]
  exact hs

theorem perm_removable (a : Alike g h) (hg : g.Simple) (hh : h.Simple) (config : PruneConfig) :
    ((g.removable config).map (·.1)).Perm ((h.removable config).map (·.1)) :=
  (List.perm_ext_iff_of_nodup (nodup_removable g config) (nodup_removable h config)).mpr
    fun _ => ⟨a.mem_removable hg hh, a.symm.mem_removable hh hg⟩

theorem torso (a : Alike g h) (tg : Torso g g') (th : Torso h h')
    (hc : ∀ s, g'.contains s = h'.contains s) : Alike g' h' := by
  constructor
  · intro s
    have hs := hc s
    cases hm : g'.node? s with
    | none =>
      rw [(node?_eq_none_iff g' s).mp hm] at hs
      rw [(node?_eq_none_iff h' s).mpr hs.symm]
    | some m =>
      rw [(contains_iff g' s).mpr ⟨m, hm⟩] at hs
      obtain ⟨n, hn⟩ := (contains_iff h' s).mp hs.symm
      obtain ⟨m', hm', hmm⟩ := tg.node s m hm
      obtain ⟨n', hn', hnn⟩ := th.node s n hn
      have hfixed := a.node s
      rw [hm', hn', Option.map_some, Option.map_some, Option.some.injEq] at hfixed
      rw [hn, Option.map_some, Option.map_some, hmm, hnn, hfixed]
  · intro s t
    rw [tg.edge, th.edge]
    simp only [hc]
    exact and_congr_right fun _ => and_congr_right fun _ => ⟨a.walk, a.symm.walk⟩

theorem dissolves (a : Alike g h) (hg : g.Simple) (hh : h.Simple) {ss ts : List Slot}
    (hp : ss.Perm ts) (dg : Dissolves g ss g') (dh : Dissolves h ts h') : Alike g' h' := by
  refine a.torso (dg.torso hg) (dh.torso hh) fun s => ?_
  rw [Bool.eq_iff_iff, dg.contains_iff hg, dh.contains_iff hh, hp.mem_iff, a.contains]

theorem rounds {config : PruneConfig} (a : Alike g h) (hg : g.Simple) (hh : h.Simple)
    (rg : Rounds config g g') (rh : Rounds config h h') : Alike g' h' := by
  induction rg generalizing h with
  | done hnil =>
    have hp := a.perm_removable hg hh config
    rw [hnil, List.map_nil, List.nil_perm, List.map_eq_nil_iff] at hp
    cases rh with
    | done _ => exact a
    | round hne _ _ _ => exact absurd hp hne
  | round hne hss d r ih =>
    have hp := a.perm_removable hg hh config
    cases rh with
    | done hnil =>
      rw [hnil, List.map_nil, List.perm_nil, List.map_eq_nil_iff] at hp
      exact absurd hp hne
    | round _ hts e q =>
      have hpass := a.dissolves hg hh (hss.trans (hp.trans hts.symm)) d e
      exact ih hpass (d.simple hg) (e.simple hh) q

theorem settled (a : Alike g h) : Alike g.settled h.settled := by
  have hfixed (k : Graph) (s : Slot) :
      (k.settled.node? s).map Node.fixed = (k.node? s).map Node.fixed := by
    rw [node?_settled, Option.map_map]
    rfl
  exact ⟨fun s => by rw [hfixed, hfixed, a.node], a.edge⟩

end Alike

theorem alike_refl (g : Graph) : Alike g g :=
  ⟨fun _ => rfl, fun _ _ => Iff.rfl⟩

theorem prune_rehangs (g : Graph) (hg : g.Forest) (config : PruneConfig) :
    ∃ h r, g.prune config = .ok (h, r) ∧ g.Rehung h ∧
      ∀ k, Rounds config g k → g.Rehung k.settled ∧ Alike h k.settled := by
  obtain ⟨h, r, hok, p⟩ := prune_ok hg.simple config
  refine ⟨h.settled, _, hok, p.rounds.rehung hg, fun k rk => ⟨rk.rehung hg, ?_⟩⟩
  exact ((alike_refl g).rounds hg.simple hg.simple p.rounds rk).settled

def boxes : Graph where
  slots := #[
    some ⟨"p_1", "p", "p", 0, ["text"], some { text := "t" }, false, .empty, some 1⟩,
    some ⟨"span_1", "span", "span", 1, ["inner"], none, false, .empty, some 3⟩,
    some ⟨"body_1", "body", "body", 2, ["page"], none, true, .empty, none⟩,
    some ⟨"div_1", "div", "div", 3, ["outer", "wide"], none, false, .empty, some 2⟩,
    some ⟨"b_1", "b", "b", 4, ["icon"], none, false, .empty, some 3⟩,
    some ⟨"a_1", "a", "a", 5, [], some { text := "u" }, false, .empty, some 2⟩]
  free := []
  edges := [(3, 4), (3, 1), (2, 3), (1, 0), (2, 5)]

theorem forest_boxes : boxes.Forest := by
  -- The edges go from the body to the boxes, and from them inwards.
  let rank (s : Slot) : Nat := [3, 2, 0, 1, 2, 1].getD s 0
  have hrank : ∀ e ∈ boxes.edges, rank e.1 < rank e.2 := by decide
  exact forest_of_rank ⟨by decide, by decide⟩ (by decide) rank hrank

theorem prune_rehangs_boxes :
    boxes.Forest ∧ ∃ h r, boxes.prune {} = .ok (h, r) ∧ r.passes = 2 ∧
      ((h.node? 0).map fun n => (n.parent, n.classes)) =
        some (some 2, ["outer", "wide", "inner", "text"]) ∧
      ∃ k₁ k₂, Dissolves boxes [4, 1] k₁ ∧ Dissolves k₁ [3] k₂ ∧
        boxes.Rehung k₂.settled ∧ Alike h k₂.settled := by
  refine ⟨forest_boxes, ?_⟩
  obtain ⟨h, r, hok, _, hany⟩ := prune_rehangs boxes forest_boxes {}
  have hrun : (boxes.prune {}).map (fun p =>
      (p.2.passes, (p.1.node? 0).map fun n => (n.parent, n.classes))) =
      .ok (2, some (some 2, ["outer", "wide", "inner", "text"])) := by decide +kernel
  simp only [hok, Except.map, Except.ok.injEq, Prod.mk.injEq] at hrun
  obtain ⟨hpasses, htext⟩ := hrun
  refine ⟨h, r, hok, hpasses, htext, ?_⟩
  have hturned : ∃ k₁ k₂, Dissolves boxes [4, 1] k₁ ∧ Dissolves k₁ [3] k₂ ∧
      (boxes.removable {}).map (·.1) = [1, 4] ∧ (k₁.removable {}).map (·.1) = [3] ∧
      k₂.removable {} = [] :=
    ⟨_, _, .cons _ rfl (.cons _ rfl (.nil _)), .cons _ rfl (.nil _), by decide, by decide, by decide⟩
  obtain ⟨k₁, k₂, d₁, d₂, hr₁, hr₂, hdone⟩ := hturned
  have hne₁ : boxes.removable {} ≠ [] := by
    intro hnil
    simp [hnil] at hr₁
  have hne₂ : k₁.removable {} ≠ [] := by
    intro hnil
    simp [hnil] at hr₂
  refine ⟨k₁, k₂, d₁, d₂, hany k₂ (.round hne₁ ?_ d₁ (.round hne₂ ?_ d₂ (.done hdone)))⟩
  · rw [hr₁]
    exact .swap 1 4 []
  · rw [hr₂]

end PageGraph.Graph
