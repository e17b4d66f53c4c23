import SignIn.Proofs.Except

namespace SignIn

variable {α β ε ε' : Type}

/-- A row of a table: `e` is the fault wherever `p` holds. -/
def faultIf (p : Prop) (e : ε) : ε → Prop :=
  fun reported => p ∧ reported = e

/-- The error of the first row that applies. A row applies if it holds of some error. -/
def FirstFault : List (ε → Prop) → ε → Prop
  | [], _ => False
  | row :: rows, e => row e ∨ (∀ other, ¬ row other) ∧ FirstFault rows e

private theorem firstFault_append {rows more : List (ε → Prop)} {e : ε} :
    FirstFault (rows ++ more) e ↔
      FirstFault rows e ∨ (∀ other, ¬ FirstFault rows other) ∧ FirstFault more e := by
  induction rows with
  | nil => simp [FirstFault]
  | cons row rows ih =>
    simp only [List.cons_append, FirstFault, ih]
    constructor
    · rintro (hrow | ⟨hrow, hrows | ⟨hrows, hmore⟩⟩)
      · exact .inl (.inl hrow)
      · exact .inl (.inr ⟨hrow, hrows⟩)
      · refine .inr ⟨?_, hmore⟩
        rintro other (hother | ⟨-, hother⟩)
        · exact hrow other hother
        · exact hrows other hother
    · rintro ((hrow | ⟨hrow, hrows⟩) | ⟨hnone, hmore⟩)
      · exact .inl hrow
      · exact .inr ⟨hrow, .inl hrows⟩
      · have hrow : ∀ other, ¬ row other := fun other hother => hnone other (.inl hother)
        exact .inr ⟨hrow, .inr ⟨fun other hother => hnone other (.inr ⟨hrow, hother⟩), hmore⟩⟩

/-- In a table of one row, the first fault is the one of that row. -/
theorem firstFault_singleton {row : ε → Prop} {e : ε} : FirstFault [row] e ↔ row e := by
  simp [FirstFault]

/-- Rows with one error in common are one row. -/
theorem firstFault_merge {p q : Prop} {fault e : ε} {rows : List (ε → Prop)} :
    FirstFault (faultIf p fault :: faultIf q fault :: rows) e ↔
      FirstFault (faultIf (p ∨ q) fault :: rows) e := by
  by_cases hp : p <;> by_cases hq : q <;> simp [FirstFault, faultIf, hp, hq]

/-- A row that never applies can be left out. -/
theorem firstFault_cons_of_not {row : ε → Prop} {rows : List (ε → Prop)} {e : ε} (hrow : ∀ other, ¬ row other) :
    FirstFault (row :: rows) e ↔ FirstFault rows e :=
  ⟨fun h => h.elim (fun he => absurd he (hrow e)) And.right, fun h => .inr ⟨hrow, h⟩⟩

/-- The last row tells of no fault but its own. -/
theorem firstFault_concat_of_ne {rows : List (ε → Prop)} {p : Prop} {fault e : ε} (hne : e ≠ fault) :
    FirstFault (rows ++ [faultIf p fault]) e ↔ FirstFault rows e := by
  rw [firstFault_append, firstFault_singleton]
  exact or_iff_left fun hlast => hne hlast.2.2

/-- A row whose faults are passed on under another name. -/
def renamed (f : ε → ε') (row : ε → Prop) : ε' → Prop :=
  fun reported => ∃ fault, row fault ∧ reported = f fault

/-- A row that is renamed applies when it did, with the error renamed. -/
theorem renamed_faultIf (f : ε → ε') (p : Prop) (fault : ε) :
    renamed f (faultIf p fault) = faultIf p (f fault) := by
  funext reported
  refine propext ⟨?_, fun h => ⟨fault, ⟨h.1, rfl⟩, h.2⟩⟩
  rintro ⟨_, ⟨hp, rfl⟩, hreported⟩
  exact ⟨hp, hreported⟩

private theorem firstFault_map_renamed {f : ε → ε'} {rows : List (ε → Prop)} {e : ε'} :
    FirstFault (rows.map (renamed f)) e ↔ ∃ fault, FirstFault rows fault ∧ e = f fault := by
  induction rows with
  | nil => simp [FirstFault]
  | cons row rows ih =>
    have hnone : (∀ other, ¬ renamed f row other) ↔ ∀ fault, ¬ row fault :=
      ⟨fun h fault hrow => h (f fault) ⟨fault, hrow, rfl⟩, fun h _ ⟨fault, hrow, _⟩ => h fault hrow⟩
    simp only [List.map_cons, FirstFault, hnone, ih]
    constructor
    · rintro (⟨fault, hrow, he⟩ | ⟨hrow, fault, hrows, he⟩)
      · exact ⟨fault, .inl hrow, he⟩
      · exact ⟨fault, .inr ⟨hrow, hrows⟩, he⟩
    · rintro ⟨fault, hrow | ⟨hrow, hrows⟩, he⟩
      · exact .inl ⟨fault, hrow, he⟩
      · exact .inr ⟨hrow, fault, hrows, he⟩

/-- A fault that is reported stands in some row. -/
theorem exists_row_of_firstFault {rows : List (ε → Prop)} {e : ε} (hfirst : FirstFault rows e) :
    ∃ row ∈ rows, row e := by
  induction rows with
  | nil => exact hfirst.elim
  | cons row rows ih =>
    rcases hfirst with hrow | ⟨-, hrows⟩
    · exact ⟨row, List.mem_cons_self, hrow⟩
    · obtain ⟨later, hlater, he⟩ := ih hrows
      exact ⟨later, List.mem_cons_of_mem row hlater, he⟩

/-- A computation fails as a table says: exactly if a row applies, and with the error of the first that does. -/
def FailsBy (x : Except ε α) (rows : List (ε → Prop)) : Prop :=
  ∀ e, x = .error e ↔ FirstFault rows e

namespace FailsBy

/-- A result has no faults. -/
theorem ok (a : α) : FailsBy (.ok a : Except ε α) [] :=
  fun _ => iff_of_false (by intro h; cases h) id

private theorem exists_ok_iff {x : Except ε α} {rows : List (ε → Prop)} (hx : FailsBy x rows) :
    (∃ a, x = .ok a) ↔ ∀ e, ¬ FirstFault rows e := by
  cases x with
  | ok a =>
    refine iff_of_true ⟨a, rfl⟩ fun e he => ?_
    cases (hx e).2 he
  | error e =>
    refine iff_of_false ?_ fun hnone => hnone e ((hx e).1 rfl)
    rintro ⟨a, ha⟩
    cases ha

/-- What comes later is looked at only where nothing was wrong before. -/
theorem bind {x : Except ε α} {f : α → Except ε β} {rows more : List (ε → Prop)} (hx : FailsBy x rows)
    (hf : ∀ a, x = .ok a → FailsBy (f a) more) : FailsBy (x >>= f) (rows ++ more) := by
  intro e
  rw [firstFault_append]
  cases x with
  | ok a =>
    have hnone : ∀ other, ¬ FirstFault rows other := hx.exists_ok_iff.1 ⟨a, rfl⟩
    change f a = .error e ↔ _
    rw [hf a rfl e]
    exact ⟨fun hmore => .inr ⟨hnone, hmore⟩, fun h => h.elim (fun hrows => absurd hrows (hnone e)) And.right⟩
  | error fault =>
    have hrows : FirstFault rows fault := (hx fault).1 rfl
    have hfails : (.error fault >>= f : Except ε β) = .error e ↔ (.error fault : Except ε α) = .error e := by
      simp [Bind.bind, Except.bind]
    rw [hfails, hx e]
    exact ⟨.inl, fun h => h.elim id fun hmore => absurd hrows (hmore.1 fault)⟩

/-- A single check in front of all that comes behind it. -/
theorem guard {x : Except ε α} {f : α → Except ε β} {row : ε → Prop} {rows : List (ε → Prop)}
    (hx : FailsBy x [row]) (hf : ∀ a, x = .ok a → FailsBy (f a) rows) : FailsBy (x >>= f) (row :: rows) :=
  hx.bind hf

/-- Where a row applies, nothing behind it counts. -/
theorem error {p : Prop} {fault : ε} {rows : List (ε → Prop)} (hp : p) :
    FailsBy (.error fault : Except ε α) (faultIf p fault :: rows) := by
  intro e
  rw [Except.error.injEq]
  constructor
  · intro he
    exact .inl ⟨hp, he.symm⟩
  · rintro (⟨-, he⟩ | ⟨hnone, -⟩)
    · exact he.symm
    · exact absurd ⟨hp, rfl⟩ (hnone fault)

/-- A row that does not apply can be put in front. -/
theorem skip {x : Except ε α} {p : Prop} {fault : ε} {rows : List (ε → Prop)} (hp : ¬ p) (hx : FailsBy x rows) :
    FailsBy x (faultIf p fault :: rows) := by
  intro e
  rw [hx e, firstFault_cons_of_not fun _ h => hp h.1]

/-- A check puts its row in front of those of what it guards. -/
theorem ite {p : Prop} [Decidable p] {fault : ε} {x : Except ε α} {rows : List (ε → Prop)}
    (hx : ¬ p → FailsBy x rows) : FailsBy (if p then .error fault else x) (faultIf p fault :: rows) := by
  by_cases hp : p
  · rw [if_pos hp]
    exact .error hp
  · rw [if_neg hp]
    exact .skip hp (hx hp)

/-- A check that can go wrong in one way. -/
theorem single {x : Except ε α} {p : Prop} {fault : ε} (hfault : p → x = .error fault)
    (hok : ¬ p → ∃ a, x = .ok a) : FailsBy x [faultIf p fault] := by
  by_cases hp : p
  · rw [hfault hp]
    exact .error hp
  · obtain ⟨a, ha⟩ := hok hp
    rw [ha]
    exact .skip hp (.ok a)

/-- A check that throws stands in front of all that comes behind it. -/
theorem throwing {p : Prop} [Decidable p] {fault : ε} {next : Unit → Except ε α} {rows : List (ε → Prop)}
    (hnext : ¬ p → FailsBy (next ()) rows) :
    FailsBy (if p then throw fault >>= next else next ()) (faultIf p fault :: rows) :=
  .ite hnext

/-- Passing faults on under another name leaves their order as it is. -/
theorem mapError {x : Except ε α} {rows : List (ε → Prop)} (hx : FailsBy x rows) (f : ε → ε') :
    FailsBy (x.mapError f) (rows.map (renamed f)) := by
  intro e
  rw [firstFault_map_renamed, mapError_eq_error_iff]
  exact exists_congr fun fault => and_congr_left fun _ => hx fault

/-- Tables that report the same faults describe the same computations. -/
theorem congr {x : Except ε α} {rows rows' : List (ε → Prop)} (hx : FailsBy x rows)
    (hrows : ∀ e, FirstFault rows e ↔ FirstFault rows' e) : FailsBy x rows' :=
  fun e => (hx e).trans (hrows e)

/-- Two rows with one error are one row. -/
theorem merge {x : Except ε α} {p q : Prop} {fault : ε} {rows : List (ε → Prop)}
    (hx : FailsBy x (faultIf p fault :: faultIf q fault :: rows)) : FailsBy x (faultIf (p ∨ q) fault :: rows) :=
  hx.congr fun _ => firstFault_merge

end FailsBy

end SignIn
