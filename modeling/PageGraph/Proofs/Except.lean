namespace PageGraph

theorem bind_eq_ok {ε α β : Type} {x : Except ε α} {f : α → Except ε β} {b : β} :
    (x >>= f) = .ok b ↔ ∃ a, x = .ok a ∧ f a = .ok b := by
  cases x with
  | error e => simp [bind, Except.bind]
  | ok a => simp [bind, Except.bind]

theorem bind_eq_error {ε α β : Type} {x : Except ε α} {f : α → Except ε β} {e : ε} :
    (x >>= f) = .error e ↔ x = .error e ∨ ∃ a, x = .ok a ∧ f a = .error e := by
  cases x with
  | error e => simp [bind, Except.bind]
  | ok a => simp [bind, Except.bind]

theorem mapError_eq_ok {ε ε' α : Type} {f : ε → ε'} {x : Except ε α} {a : α} :
    x.mapError f = .ok a ↔ x = .ok a := by
  cases x with
  | error e => exact ⟨nofun, nofun⟩
  | ok b =>
    constructor
    · intro h
      cases h
      rfl
    · intro h
      cases h
      rfl

theorem map_eq_ok {ε α β : Type} {f : α → β} {x : Except ε α} {b : β} :
    x.map f = .ok b ↔ ∃ a, x = .ok a ∧ f a = b := by
  cases x with
  | error e => simp [Except.map]
  | ok a => simp [Except.map]

theorem map_eq_error {ε α β : Type} {f : α → β} {x : Except ε α} {e : ε} :
    x.map f = .error e ↔ x = .error e := by
  cases x with
  | error e => simp [Except.map]
  | ok a => simp [Except.map]

theorem toOption_eq_some {ε α : Type} {x : Except ε α} {a : α} :
    x.toOption = some a ↔ x = .ok a := by
  cases x with
  | error e => simp [Except.toOption]
  | ok b => simp [Except.toOption]

theorem mapM_eq_ok {ε α β : Type} {f : α → Except ε β} {g : α → Option β}
    (hf : ∀ a b, f a = .ok b ↔ g a = some b) (as : List α) (bs : List β) :
    as.mapM f = .ok bs ↔ (∀ a ∈ as, ∃ b, g a = some b) ∧ bs = as.filterMap g := by
  induction as generalizing bs with
  | nil => simp [pure, Except.pure, eq_comm]
  | cons a as ih =>
    rw [List.mapM_cons, bind_eq_ok]
    constructor
    · rintro ⟨b, hb, h⟩
      obtain ⟨cs, hcs, h⟩ := bind_eq_ok.mp h
      obtain ⟨hall, rfl⟩ := (ih cs).mp hcs
      have hb := (hf a b).mp hb
      cases h
      exact ⟨List.forall_mem_cons.mpr ⟨⟨b, hb⟩, hall⟩, by rw [List.filterMap_cons_some hb]⟩
    · rintro ⟨hall, rfl⟩
      obtain ⟨⟨b, hb⟩, hall⟩ := List.forall_mem_cons.mp hall
      refine ⟨b, (hf a b).mpr hb, bind_eq_ok.mpr ⟨_, (ih _).mpr ⟨hall, rfl⟩, ?_⟩⟩
      rw [List.filterMap_cons_some hb]
      rfl

theorem exists_mapM_iff {ε α β : Type} {f : α → Except ε β} {as : List α} :
    (∃ bs, as.mapM f = .ok bs) ↔ ∀ a ∈ as, ∃ b, f a = .ok b := by
  have hof (bs : List β) := mapM_eq_ok (f := f) (fun _ _ => toOption_eq_some.symm) as bs
  simp only [hof, toOption_eq_some, exists_and_left, exists_eq, and_true]

theorem exists_of_mapM_eq_error {ε α β : Type} {f : α → Except ε β} {as : List α} {e : ε}
    (h : as.mapM f = .error e) : ∃ a ∈ as, f a = .error e := by
  induction as with
  | nil => contradiction
  | cons a as ih =>
    rw [List.mapM_cons] at h
    rcases bind_eq_error.mp h with ha | ⟨b, _, h⟩
    · exact ⟨a, List.mem_cons_self, ha⟩
    · rcases bind_eq_error.mp h with has | ⟨_, _, h⟩
      · obtain ⟨a', ha', he⟩ := ih has
        exact ⟨a', List.mem_cons_of_mem _ ha', he⟩
      · contradiction

theorem bind_congr_ok {ε α β : Type} {x : Except ε α} {f g : α → Except ε β}
    (h : ∀ a, x = .ok a → f a = g a) : (x >>= f) = (x >>= g) := by
  cases x with
  | error e => rfl
  | ok a => exact h a rfl

theorem forM_eq_ok {ε α : Type} {f : α → Except ε Unit} (as : List α) :
    as.forM f = .ok () ↔ ∀ a ∈ as, f a = .ok () := by
  induction as with
  | nil => simp [pure, Except.pure]
  | cons a as ih =>
    change (f a >>= fun _ => as.forM f) = .ok () ↔ _
    rw [bind_eq_ok, List.forall_mem_cons, ← ih]
    constructor
    · rintro ⟨_, ha, has⟩
      exact ⟨ha, has⟩
    · rintro ⟨ha, has⟩
      exact ⟨(), ha, has⟩

end PageGraph
