import Mathlib.Data.List.Basic

namespace PageGraph

-- By induction on the list: a first element is put in behind those that are strictly better.
theorem pairwise_mergeSort_of_pairwise {α : Type} {le : α → α → Bool} {r : α → α → Prop}
    (htrans : ∀ a b c, le a b = true → le b c = true → le a c = true)
    (htotal : ∀ a b, (le a b || le b a) = true) {l : List α} (hl : l.Pairwise r) :
    (l.mergeSort le).Pairwise fun a b => le b a = true → r a b := by
  induction l with
  | nil => simp
  | cons a l ih =>
    obtain ⟨hfirst, hrest⟩ := List.pairwise_cons.mp hl
    obtain ⟨better, others, hsort, hsplit, hbetter⟩ := List.mergeSort_cons htrans htotal a l
    have hothers : ∀ b ∈ others, b ∈ l := by
      intro b hb
      have hmem : b ∈ l.mergeSort le := by
        rw [hsplit]
        exact List.mem_append_right _ hb
      exact List.mem_mergeSort.mp hmem
    rw [hsort]
    have hold := List.pairwise_append.mp (hsplit ▸ ih hrest)
    refine List.pairwise_append.mpr ⟨hold.1, List.pairwise_cons.mpr ⟨?_, hold.2.1⟩, ?_⟩
    · exact fun b hb _ => hfirst b (hothers b hb)
    · intro b hb c hc hcb
      rcases List.mem_cons.mp hc with rfl | hc
      · have hworse := hbetter b hb
        rw [hcb] at hworse
        contradiction
      · exact hold.2.2 b hb c hc hcb

end PageGraph
