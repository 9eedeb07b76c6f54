import PageGraph.Proofs.Graph.Torso

namespace PageGraph.Graph

structure InPreorder (g : Graph) : Prop where
  ascending : ∀ s t, g.Edge s t → s < t
  whole : ∀ a b c, Relation.TransGen g.Edge a c → g.contains b = true → a < b → b ≤ c →
    Relation.TransGen g.Edge a b

theorem InPreorder.lt_of_reaches {g : Graph} (hg : g.InPreorder) {s t : Slot}
    (h : Relation.TransGen g.Edge s t) : s < t :=
  rank_lt_of_reaches id hg.ascending h

theorem InPreorder.torso {g h : Graph} (hg : g.InPreorder) (t : Torso g h) (hh : h.Simple) :
    h.InPreorder := by
  have hreach (a c : Slot) (hac : Relation.TransGen h.Edge a c) :
      h.contains a = true ∧ Relation.TransGen g.Edge a c := by
    obtain ⟨ha, hc⟩ := ((walk_true_iff h a c).mpr hac).live hh
    exact ⟨ha, (t.reaches_iff ha hc).mp hac⟩
  constructor
  · intro a c he
    exact hg.lt_of_reaches (hreach a c (.single he)).2
  · intro a b c hac hb hab hbc
    obtain ⟨ha, hac⟩ := hreach a c hac
    exact (t.reaches_iff ha hb).mpr (hg.whole a b c hac (t.contains hb) hab hbc)

theorem inPreorder_of_next {g : Graph} (hfirst : ∀ p, ¬ g.Edge p 0)
    (hnext : ∀ p c, g.Edge p (c + 1) → Relation.ReflTransGen g.Edge p c) : g.InPreorder := by
  have hbelow : ∀ c a, Relation.TransGen g.Edge a c → a < c := by
    intro c
    induction c with
    | zero =>
      intro a h
      obtain ⟨p, _, hp⟩ := Relation.TransGen.tail'_iff.mp h
      exact absurd hp (hfirst p)
    | succ c ih =>
      intro a h
      obtain ⟨p, hap, hp⟩ := Relation.TransGen.tail'_iff.mp h
      rcases Relation.reflTransGen_iff_eq_or_transGen.mp (hap.trans (hnext p c hp)) with rfl | hac
      · exact Nat.lt_succ_self _
      · exact Nat.lt_succ_of_lt (ih a hac)
  refine ⟨fun s t he => hbelow t s (.single he), ?_⟩
  intro a b c hac _ hab hbc
  induction hbc with
  | refl => exact hac
  | @step c hbc ih =>
    obtain ⟨p, hap, hp⟩ := Relation.TransGen.tail'_iff.mp hac
    rcases Relation.reflTransGen_iff_eq_or_transGen.mp (hap.trans (hnext p c hp)) with rfl | hac
    · exact absurd (Nat.lt_of_lt_of_le hab hbc) (Nat.lt_irrefl _)
    · exact ih hac

end PageGraph.Graph
