import Mathlib.Data.List.Chain
import Mathlib.Data.Nat.Find
import Mathlib.Logic.Relation
import Mathlib.Order.Bounds.Basic
import PageGraph.Graph.Ancestry
import PageGraph.Proofs.Graph.Simple

namespace PageGraph.Graph

def Up (g : Graph) (s t : Slot) : Prop :=
  g.parent? s = some t

theorem Up.contains {g : Graph} {s t : Slot} (h : g.Up s t) : g.contains s = true := by
  obtain ⟨n, hn, _⟩ := Option.bind_eq_some_iff.mp h
  exact (contains_iff g s).mpr ⟨n, hn⟩

theorem isChain_chain (g : Graph) (length : Nat) (s : Slot) :
    (g.chain length s).IsChain g.Up := by
  induction length generalizing s with
  | zero => exact .nil
  | succ length ih =>
    rw [chain]
    cases hp : g.parent? s with
    | none => exact .singleton s
    | some p =>
      refine List.isChain_cons.mpr ⟨?_, ih p⟩
      intro q hq
      cases length with
      | zero => simp [chain] at hq
      | succ length =>
        simp only [chain, List.head?_cons, Option.mem_some_iff] at hq
        exact hq ▸ hp

theorem pairwise_chain (g : Graph) (length : Nat) (s : Slot) :
    (g.chain length s).Pairwise (Relation.TransGen g.Up) :=
  List.isChain_iff_pairwise.mp ((g.isChain_chain length s).imp fun _ _ h => .single h)

theorem reaches_of_mem_chain (g : Graph) (length : Nat) (s t : Slot)
    (h : t ∈ g.chain length s) : Relation.ReflTransGen g.Up s t := by
  induction length generalizing s with
  | zero => simp [chain] at h
  | succ length ih =>
    rw [chain] at h
    cases hp : g.parent? s with
    | none =>
      rw [hp, List.mem_singleton] at h
      rw [h]
    | some p =>
      rw [hp, List.mem_cons] at h
      rcases h with rfl | h
      · rfl
      · exact .head hp (ih p h)

theorem chain_ends_or_cut (g : Graph) (length : Nat) (s : Slot) :
    (∃ r, (g.chain (length + 1) s).getLast? = some r ∧ g.parent? r = none) ∨
      (g.chain (length + 1) s).length = length + 1 ∧
        ∀ t ∈ g.chain (length + 1) s, g.contains t = true := by
  induction length generalizing s with
  | zero =>
    cases hp : g.parent? s with
    | none => exact .inl ⟨s, by simp [chain, hp], hp⟩
    | some p => exact .inr (by simpa [chain, hp] using Up.contains hp)
  | succ length ih =>
    cases hp : g.parent? s with
    | none => exact .inl ⟨s, by simp [chain, hp], hp⟩
    | some p =>
      have hs : g.chain (length + 1 + 1) s = s :: g.chain (length + 1) p := by
        simp only [chain, hp]
      rw [hs]
      rcases ih p with ⟨r, hr, hno⟩ | ⟨hlen, hall⟩
      · exact .inl ⟨r, by rw [List.getLast?_cons, hr]; rfl, hno⟩
      · refine .inr ⟨by rw [List.length_cons, hlen], ?_⟩
        exact List.forall_mem_cons.mpr ⟨Up.contains hp, hall⟩

theorem chain_succ_of_ends (g : Graph) (length : Nat) (s r : Slot)
    (hr : (g.chain length s).getLast? = some r) (hno : g.parent? r = none) :
    g.chain (length + 1) s = g.chain length s := by
  induction length generalizing s with
  | zero => simp [chain] at hr
  | succ length ih =>
    rw [chain] at hr ⊢
    rw [chain]
    cases hp : g.parent? s with
    | none => rfl
    | some p =>
      simp only [hp] at hr ⊢
      rw [List.getLast?_cons] at hr
      cases hl : (g.chain length p).getLast? with
      | none =>
        rw [hl, Option.getD_none, Option.some.injEq] at hr
        rw [hr, hno] at hp
        contradiction
      | some q =>
        rw [hl, Option.getD_some] at hr
        rw [ih p (hl.trans hr)]

def above? (g : Graph) : Nat → Slot → Option Slot
  | 0, s => some s
  | k + 1, s => (g.parent? s).bind (g.above? k)

theorem above?_add (g : Graph) (j k : Nat) (s : Slot) :
    g.above? (j + k) s = (g.above? j s).bind (g.above? k) := by
  induction j generalizing s with
  | zero => rw [Nat.zero_add, above?, Option.bind_some]
  | succ j ih =>
    rw [Nat.succ_add, above?, above?, Option.bind_assoc]
    exact congrArg _ (funext ih)

theorem reaches_iff_above? (g : Graph) (s t : Slot) :
    Relation.ReflTransGen g.Up s t ↔ ∃ k, g.above? k s = some t := by
  constructor
  · intro h
    induction h using Relation.ReflTransGen.head_induction_on with
    | refl => exact ⟨0, rfl⟩
    | @head s p hp _ ih =>
      obtain ⟨k, hk⟩ := ih
      exact ⟨k + 1, Option.bind_eq_some_iff.mpr ⟨p, hp, hk⟩⟩
  · rintro ⟨k, hk⟩
    induction k generalizing s with
    | zero => rw [Option.some.inj hk]
    | succ k ih =>
      obtain ⟨p, hp, hk⟩ := Option.bind_eq_some_iff.mp hk
      exact .head hp (ih p hk)

theorem getElem?_chain (g : Graph) (length : Nat) (s : Slot) (k : Nat) :
    (g.chain length s)[k]? = if k < length then g.above? k s else none := by
  induction length generalizing s k with
  | zero => simp [chain]
  | succ length ih =>
    rw [chain]
    cases k with
    | zero => simp [above?]
    | succ k =>
      rw [List.getElem?_cons_succ, above?]
      cases g.parent? s with
      | none => simp
      | some p => simp [ih]

theorem getElem?_ancestors (g : Graph) (s : Slot) {k : Nat} (hk : k ≤ g.nodeCount) :
    (g.ancestors s)[k]? = g.above? k s := by
  rw [ancestors, getElem?_chain, if_pos (Nat.lt_succ_of_le hk)]

theorem isLeast_le_nodeCount {g : Graph} {s t : Slot} {k : Nat}
    (h : IsLeast {n | g.above? n s = some t} k) : k ≤ g.nodeCount := by
  have hpassed : ∀ i < k, ∃ u, g.above? i s = some u ∧ g.contains u = true ∧
      g.above? (k - i) u = some t := by
    intro i hi
    have hk : g.above? k s = some t := h.1
    obtain ⟨u, hu, hrest⟩ : ∃ u, g.above? i s = some u ∧ g.above? (k - i) u = some t := by
      rw [← Option.bind_eq_some_iff, ← above?_add, Nat.add_sub_cancel' (Nat.le_of_lt hi), hk]
    obtain ⟨j, hj⟩ : ∃ j, k - i = j + 1 := Nat.exists_eq_succ_of_ne_zero (by omega)
    rw [hj] at hrest
    obtain ⟨p, hp, _⟩ := Option.bind_eq_some_iff.mp hrest
    exact ⟨u, hu, Up.contains hp, hj ▸ hrest⟩
  choose! u hu hlive hrest using hpassed
  have hinj : ∀ i ∈ Finset.range k, ∀ j ∈ Finset.range k, u i = u j → i = j := by
    -- A slot that is passed twice leaves out what is between, and `k` is least.
    have hle {i j : Nat} (hi : i < k) (hj : j < k) (hij : u i = u j) : j ≤ i := by
      have hshort : g.above? (i + (k - j)) s = some t := by
        rw [above?_add, hu i hi, Option.bind_some, hij, hrest j hj]
      have := h.2 hshort
      omega
    intro i hi j hj hij
    rw [Finset.mem_range] at hi hj
    exact Nat.le_antisymm (hle hj hi hij.symm) (hle hi hj hij)
  calc k = (Finset.range k).card := (Finset.card_range k).symm
    _ ≤ g.live.card := Finset.card_le_card_of_injOn u
        (fun i hi => (mem_live g _).mpr (hlive i (Finset.mem_range.mp hi))) hinj
    _ = g.nodeCount := card_live g

theorem exists_isLeast_above? {g : Graph} {s t : Slot} (h : Relation.ReflTransGen g.Up s t) :
    ∃ k, IsLeast {n | g.above? n s = some t} k := by
  classical
  have hsome := (g.reaches_iff_above? s t).mp h
  exact ⟨Nat.find hsome, Nat.find_spec hsome, fun _ hn => Nat.find_min' hsome hn⟩

theorem mem_ancestors_iff (g : Graph) (s t : Slot) :
    t ∈ g.ancestors s ↔ Relation.ReflTransGen g.Up s t := by
  constructor
  · exact g.reaches_of_mem_chain _ s t
  · intro h
    obtain ⟨k, hk⟩ := exists_isLeast_above? h
    have hat : (g.ancestors s)[k]? = some t :=
      (g.getElem?_ancestors s (isLeast_le_nodeCount hk)).trans hk.1
    exact List.mem_of_getElem? hat

theorem hops?_self (g : Graph) (s : Slot) : g.hops? s s = some 0 := by
  rw [hops?, ancestors, chain, List.idxOf?_cons, if_pos (beq_self_eq_true s)]

theorem isAncestor_self (g : Graph) (s : Slot) : g.isAncestor s s = true := by
  rw [isAncestor, lca?, if_pos rfl]
  exact decide_eq_true rfl

theorem hops?_eq_some_imp {g : Graph} {s t : Slot} {d : Nat} (h : g.hops? s t = some d) :
    (g.ancestors s)[d]? = some t := by
  obtain ⟨hlt, hd, _⟩ := List.idxOf?_eq_some_iff.mp h
  rw [List.getElem?_eq_getElem hlt, hd]

theorem hops?_inj {g : Graph} {s t u : Slot} {d : Nat} (ht : g.hops? s t = some d)
    (hu : g.hops? s u = some d) : t = u :=
  Option.some.inj ((hops?_eq_some_imp ht).symm.trans (hops?_eq_some_imp hu))

theorem exists_hops? {g : Graph} {s t : Slot} (h : t ∈ g.ancestors s) :
    ∃ d, g.hops? s t = some d :=
  Option.isSome_iff_exists.mp (List.isSome_idxOf?.mpr h)

theorem lca?_of_mem_ancestors {g : Graph} {anchor s : Slot} (h : s ∈ g.ancestors anchor) :
    g.lca? anchor s = some s := by
  rw [lca?_eq_meeting?, meeting?, ancestors.eq_1 g s, chain, List.find?_cons,
    List.contains_iff_mem.mpr h]

theorem self_mem_ancestors (g : Graph) (s : Slot) : s ∈ g.ancestors s :=
  List.mem_of_mem_head? (g.head?_ancestors s)

theorem nodup_chain_of_no_return {g : Graph} {s : Slot} {length : Nat}
    (h : ∀ t, Relation.ReflTransGen g.Up s t → ¬ Relation.TransGen g.Up t t) :
    (g.chain length s).Nodup := by
  refine (g.pairwise_chain length s).imp_of_mem ?_
  intro a b ha _ hback hab
  rw [← hab] at hback
  exact h a (g.reaches_of_mem_chain length s a ha) hback

theorem ancestors_end_of_nodup {g : Graph} {s : Slot} (h : (g.ancestors s).Nodup) :
    ∃ r, (g.ancestors s).getLast? = some r ∧ g.parent? r = none := by
  rcases g.chain_ends_or_cut g.nodeCount s with hend | ⟨hlen, hall⟩
  · exact hend
  · have hsub : (g.ancestors s).toFinset ⊆ g.live := by
      intro t ht
      exact (mem_live g t).mpr (hall t (List.mem_toFinset.mp ht))
    have hcard := Finset.card_le_card hsub
    rw [List.toFinset_card_of_nodup h, ancestors, hlen, card_live] at hcard
    omega

theorem acyclic_of_descending {g : Graph} (h : ∀ s < g.slots.size, ∀ t ∈ g.parent? s, t < s)
    (s : Slot) : ¬ Relation.TransGen g.Up s s := by
  have hup {a b : Slot} (hab : g.Up a b) : b < a := by
    obtain ⟨n, hn, _⟩ := Option.bind_eq_some_iff.mp hab
    exact h a (lt_size_of_node? g a n hn) b hab
  have hlt {a b : Slot} (hab : Relation.TransGen g.Up a b) : b < a := by
    induction hab with
    | single hab => exact hup hab
    | tail _ hbc ih => exact Nat.lt_trans (hup hbc) ih
  intro hs
  exact Nat.lt_irrefl s (hlt hs)

section Acyclic

variable {g : Graph} (hg : ∀ s, ¬ Relation.TransGen g.Up s s)
include hg

theorem nodup_chain (length : Nat) (s : Slot) : (g.chain length s).Nodup :=
  nodup_chain_of_no_return fun t _ => hg t

theorem ancestors_end (s : Slot) :
    ∃ r, (g.ancestors s).getLast? = some r ∧ g.parent? r = none :=
  ancestors_end_of_nodup (nodup_chain hg _ s)

theorem ancestors_of_up {s p : Slot} (hp : g.Up s p) : g.ancestors s = s :: g.ancestors p := by
  have hs : g.ancestors s = s :: g.chain g.nodeCount p := by
    rw [Up] at hp
    rw [ancestors, chain, hp]
  obtain ⟨r, hr, hno⟩ := ancestors_end hg s
  rw [hs, List.getLast?_cons] at hr
  cases hl : (g.chain g.nodeCount p).getLast? with
  | none =>
    rw [hl, Option.getD_none, Option.some.injEq] at hr
    rw [Up, hr, hno] at hp
    contradiction
  | some q =>
    rw [hl, Option.getD_some] at hr
    rw [hs, ancestors, chain_succ_of_ends g g.nodeCount p r (hl.trans hr) hno]

theorem getLast?_ancestors_of_mem {s t : Slot} (h : t ∈ g.ancestors s) :
    (g.ancestors s).getLast? = (g.ancestors t).getLast? := by
  have hreach := (g.mem_ancestors_iff s t).mp h
  clear h
  induction hreach using Relation.ReflTransGen.head_induction_on with
  | refl => rfl
  | @head s p hp _ ih =>
    obtain ⟨r, hr, _⟩ := ancestors_end hg p
    rw [ancestors_of_up hg hp, List.getLast?_cons, ← ih, hr]
    rfl

theorem lca?_isSome_iff (a b : Slot) :
    (g.lca? a b).isSome = true ↔ (g.ancestors a).getLast? = (g.ancestors b).getLast? := by
  rw [lca?_eq_meeting?, meeting?, List.find?_isSome]
  constructor
  · rintro ⟨t, hb, ha⟩
    rw [getLast?_ancestors_of_mem hg hb, getLast?_ancestors_of_mem hg (List.contains_iff_mem.mp ha)]
  · intro h
    obtain ⟨r, hr, _⟩ := ancestors_end hg b
    exact ⟨r, List.mem_of_getLast? hr,
      List.contains_iff_mem.mpr (List.mem_of_getLast? (h.trans hr))⟩

theorem isAncestor_iff (up down : Slot) :
    g.isAncestor up down = true ↔ up ∈ g.ancestors down := by
  rw [isAncestor, decide_eq_true_iff, lca?_eq_meeting?, meeting?]
  constructor
  · exact List.mem_of_find?_eq_some
  · intro h
    obtain ⟨below, above, hsplit⟩ := List.append_of_mem h
    refine List.find?_eq_some_iff_append.mpr ⟨?_, below, above, hsplit, ?_⟩
    · exact List.contains_iff_mem.mpr (g.self_mem_ancestors up)
    · intro s hs
      rw [Bool.not_eq_true', ← Bool.not_eq_true, List.contains_iff_mem]
      intro hup
      have hpair := g.pairwise_chain (g.nodeCount + 1) down
      rw [← ancestors, hsplit, List.pairwise_append] at hpair
      have hback := hpair.2.2 s hs up List.mem_cons_self
      exact hg s (hback.trans_left ((g.mem_ancestors_iff up s).mp hup))

end Acyclic

end PageGraph.Graph
