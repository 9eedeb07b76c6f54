import PageGraph.Proofs.Build.Naming
import PageGraph.Proofs.Build.Preorder

namespace PageGraph

open Markup

/-- Among nodes in the order in which they are added, `n` is the first whose id is taken, and it is
taken by `m`, which has another name. -/
structure Clash (nodes : List Node) (m n : Node) : Prop where
  first : ∃ before after, nodes = before ++ n :: after ∧ m ∈ before ∧ (before.map (·.id)).Nodup
  tag : m.tag = n.tag
  name : m.name ≠ n.name
  number : nameNumber m.name % 10 ^ 8 = nameNumber n.name % 10 ^ 8
  id : m.id = n.id

theorem eq_of_append_cons_eq {α : Type} {a b : α} {as bs cs ds : List α} (has : as.Nodup)
    (hbs : bs.Nodup) (ha : a ∈ as) (hb : b ∈ bs) (h : as ++ a :: cs = bs ++ b :: ds) : a = b := by
  have hmid {a b : α} {as bs mid cs ds : List α} (hbs : bs.Nodup) (ha : a ∈ as)
      (hsplit : bs = as ++ mid) (h : a :: cs = mid ++ b :: ds) : a = b := by
    cases mid with
    | nil => exact (List.cons.inj h).1
    | cons m mid =>
      rw [hsplit, ← (List.cons.inj h).1] at hbs
      exact absurd rfl ((List.nodup_append.mp hbs).2.2 a ha a List.mem_cons_self)
  rcases List.append_eq_append_iff.mp h with ⟨mid, hsplit, hrest⟩ | ⟨mid, hsplit, hrest⟩
  · exact hmid hbs ha hsplit hrest
  · exact (hmid has hb hsplit hrest).symm

theorem Clash.id_unique {nodes : List Node} {m n m' n' : Node} (c : Clash nodes m n)
    (c' : Clash nodes m' n') : n.id = n'.id := by
  obtain ⟨before, after, hsplit, hm, hnodup⟩ := c.first
  obtain ⟨before', after', hsplit', hm', hnodup'⟩ := c'.first
  have hids := congrArg (List.map (·.id)) (hsplit.symm.trans hsplit')
  simp only [List.map_append, List.map_cons] at hids
  refine eq_of_append_cons_eq hnodup hnodup' ?_ ?_ hids
  · rw [← c.id]
    exact List.mem_map_of_mem hm
  · rw [← c'.id]
    exact List.mem_map_of_mem hm'

namespace Found

theorem clash_of_mem_nodes {before : List Found} {f : Found} {m : Node} (after : List Found)
    (hnodup : (ids before).Nodup) (hm : m ∈ nodes before) (hid : m.id = (f.node before).id) :
    Clash (nodes (before ++ f :: after)) m (f.node before) := by
  obtain ⟨i, g, hg, rfl⟩ := mem_nodes hm
  obtain ⟨htag, hnumber⟩ := (id_eq_iff _ _ _ _).mp hid
  obtain ⟨rest, hrest⟩ := nodes_prefix (before ++ [f]) after
  refine ⟨⟨nodes before, rest, ?_, hm, hnodup⟩, htag, name_ne_of_mem_nodes hm f, hnumber, hid⟩
  rw [← List.append_cons, nodes_concat, ← List.append_cons] at hrest
  exact hrest.symm

theorem clash_of_getElem? {found : List Found} {i j : Nat} {m n : Node} (hij : i < j)
    (hm : (nodes found)[i]? = some m) (hn : (nodes found)[j]? = some n)
    (hnodup : (ids (found.take j)).Nodup) (hid : m.id = n.id) : Clash (nodes found) m n := by
  rw [getElem?_nodes] at hm hn
  obtain ⟨g, hg, rfl⟩ := Option.map_eq_some_iff.mp hm
  obtain ⟨f, hf, rfl⟩ := Option.map_eq_some_iff.mp hn
  have hold : g.node (found.take i) ∈ nodes (found.take j) := by
    apply List.mem_iff_getElem?.mpr
    refine ⟨i, ?_⟩
    rw [getElem?_nodes, List.getElem?_take_of_lt hij, hg, List.take_take, Nat.min_eq_left hij.le]
    rfl
  have hclash := clash_of_mem_nodes (found.drop (j + 1)) hnodup hold hid
  rwa [← eq_take_cons_drop hf] at hclash

end Found

theorem Growth.clash_of_run_eq_error (config : BuildConfig) {g : Growth} {found : List Found}
    {stack : List (Content × Option Slot)} {e : GraphError} (h : g.Holds found)
    (hids : (Found.ids found).Nodup) (hrun : run config g stack = .error e) :
    ∃ m n, Clash (Found.nodes (found ++ Content.preorderStack config found.length stack)) m n ∧
      e = .duplicateNode n.id := by
  induction g, stack using run.induct config generalizing found with
  | case1 g =>
    rw [run] at hrun
    contradiction
  | case2 g c parent rest hnone ih =>
    rw [run_skip config g c parent rest hnone] at hrun
    rw [Content.of?_eq config parent c] at hnone
    split at hnone
    · contradiction
    · next hout =>
      rw [Content.preorderStack_skip hout]
      exact ih h hids hrun
  | case3 g c parent rest s hsome ih =>
    rw [run_add config g c parent rest s hsome] at hrun
    rw [Content.of?_eq config parent c] at hsome
    split at hsome
    · next hin =>
      obtain rfl := Option.some.inj hsome
      rw [Content.preorderStack_visit hin]
      rw [h.add_eq] at hrun
      split at hrun
      · next hid =>
        cases hrun
        obtain ⟨m, hm, hsame⟩ := List.mem_map.mp hid
        exact ⟨m, _, Found.clash_of_mem_nodes _ hids hm hsame, rfl⟩
      · next hid =>
        have hnodup := (Found.nodup_ids_concat hids ⟨c, parent⟩).mpr hid
        have hrest := ih _ found.length (h.grow ⟨c, parent⟩) hnodup hrun
        rw [List.length_append, List.append_assoc] at hrest
        exact hrest
    · contradiction

theorem Clash.not_nodup {nodes : List Node} {m n : Node} (c : Clash nodes m n) :
    ¬ (nodes.map (·.id)).Nodup := by
  obtain ⟨before, after, rfl, hm, _⟩ := c.first
  rw [List.map_append, List.map_cons]
  intro h
  exact (List.nodup_append.mp h).2.2 _ (List.mem_map_of_mem hm) _ List.mem_cons_self c.id

theorem Graph.ofDocument_eq_error_iff (config : BuildConfig) (d : Document) (e : GraphError) :
    ofDocument config d = .error e ↔
      ∃ m n, Clash (Found.nodes (Found.ofDocument config d)) m n ∧ e = .duplicateNode n.id := by
  have hclash {e : GraphError} (h : ofDocument config d = .error e) :
      ∃ m n, Clash (Found.nodes (Found.ofDocument config d)) m n ∧ e = .duplicateNode n.id := by
    cases hrun : Growth.run config {} (d.children.map (·, none)) with
    | ok built =>
      rw [ofDocument, hrun] at h
      cases h
    | error e' =>
      rw [ofDocument, hrun] at h
      cases h
      have hclash := Growth.clash_of_run_eq_error config Growth.Holds.empty List.nodup_nil hrun
      rwa [List.nil_append, List.length_nil, Content.preorderStack_map] at hclash
  refine ⟨hclash, ?_⟩
  rintro ⟨m, n, hc, rfl⟩
  cases hrun : ofDocument config d with
  | ok g => exact absurd (Found.nodup_ids_of_ok hrun) hc.not_nodup
  | error e =>
    obtain ⟨m', n', hc', rfl⟩ := hclash hrun
    rw [hc'.id_unique hc]

theorem Found.ok_of_pairwise {config : BuildConfig} {d : Document}
    (h : (nodes (ofDocument config d)).Pairwise fun m n =>
      m.tag = n.tag → nameNumber m.name % 10 ^ 8 ≠ nameNumber n.name % 10 ^ 8) :
    Graph.ofDocument config d = .ok (graph (ofDocument config d)) :=
  ok_of_nodup ((nodup_ids_iff _).mpr h)

end PageGraph
