namespace SignIn

variable {α β ε ε' : Type}

/-- A row of two steps comes to a value if both of them do. -/
theorem bind_eq_ok_iff {x : Except ε α} {f : α → Except ε β} {b : β} :
    (x >>= f) = .ok b ↔ ∃ a, x = .ok a ∧ f a = .ok b := by
  cases x <;> simp [bind, Except.bind]

/-- A row of checks goes on behind a check that finds nothing wrong. -/
theorem ite_throw_eq_ok_iff {p : Prop} [Decidable p] {e : ε} {next : Unit → Except ε β} {b : β} :
    (if p then throw e >>= next else next ()) = .ok b ↔ ¬ p ∧ next () = .ok b := by
  by_cases hp : p
  · rw [if_pos hp]
    exact iff_of_false (by intro h; cases h) fun h => h.1 hp
  · rw [if_neg hp]
    exact (and_iff_right hp).symm

/-- A changed result is a result that was changed. -/
theorem map_eq_ok_iff {x : Except ε α} {f : α → β} {b : β} :
    x.map f = .ok b ↔ ∃ a, x = .ok a ∧ f a = b := by
  cases x with
  | error e => exact iff_of_false (by intro h; cases h) (by rintro ⟨a, h, _⟩; cases h)
  | ok a =>
    constructor
    · intro h
      exact ⟨a, rfl, Except.ok.inj h⟩
    · rintro ⟨_, h, rfl⟩
      cases h
      rfl

/-- Computations that agree in what `f` tells of their values agree in what can be told from that. -/
theorem map_eq_map_of_map_eq {γ : Type} {f : α → β} {g : α → γ} (hfg : ∀ a a', f a = f a' → g a = g a')
    {x y : Except ε α} (h : x.map f = y.map f) : x.map g = y.map g := by
  cases x with
  | error e =>
    cases y with
    | error e' =>
      cases h
      rfl
    | ok a' => cases h
  | ok a =>
    cases y with
    | error e' => cases h
    | ok a' => exact congrArg Except.ok (hfg a a' (Except.ok.inj h))

/-- Renaming an error leaves all results as they are. -/
theorem mapError_eq_ok_iff {x : Except ε α} {f : ε → ε'} {a : α} :
    x.mapError f = .ok a ↔ x = .ok a := by
  cases x with
  | error e => exact iff_of_false (by intro h; cases h) (by intro h; cases h)
  | ok a' => exact ⟨fun h => congrArg _ (Except.ok.inj h), fun h => congrArg _ (Except.ok.inj h)⟩

/-- A renamed error comes from an error. -/
theorem mapError_eq_error_iff {x : Except ε α} {f : ε → ε'} {e : ε'} :
    x.mapError f = .error e ↔ ∃ fault, x = .error fault ∧ e = f fault := by
  cases x with
  | ok a => exact iff_of_false (by intro h; cases h) (by rintro ⟨_, h, _⟩; cases h)
  | error fault =>
    constructor
    · intro h
      exact ⟨fault, rfl, (Except.error.inj h).symm⟩
    · rintro ⟨_, h, rfl⟩
      cases h
      rfl

end SignIn
