/-
Module: NodeSync.Proofs.Checks
Purpose: When a result that is made of others is a value and when it is an error. A list of checks
  passes if every one does, and fails as the first one does that fails.
Main exports: map_eq_ok_iff, mapError_eq_error_iff, bind_eq_error, forM_eq_ok_iff, forM_eq_error_iff
-/
namespace NodeSync

set_option autoImplicit false

section Results

variable {α β ε ε' : Type} {result : Except ε α} {error : ε}

/-- A changed value comes from a value. -/
theorem map_eq_ok_iff {f : α → β} {value : β} :
    result.map f = .ok value ↔ ∃ found, result = .ok found ∧ f found = value := by
  cases result <;> simp [Except.map]

theorem map_eq_error_iff {f : α → β} : result.map f = .error error ↔ result = .error error := by
  cases result <;> simp [Except.map]

theorem mapError_eq_ok_iff {f : ε → ε'} {value : α} :
    result.mapError f = .ok value ↔ result = .ok value := by
  cases result with
  | error fault => exact ⟨nofun, nofun⟩
  | ok found =>
      -- The two sides are equations of different types.
      constructor
      · intro same
        rw [Except.ok.inj same]
      · rintro ⟨⟩
        rfl

/-- A changed error comes from an error. -/
theorem mapError_eq_error_iff {f : ε → ε'} {fault : ε'} :
    result.mapError f = .error fault ↔ ∃ error, result = .error error ∧ f error = fault := by
  cases result with
  | error error =>
      constructor
      · intro same
        exact ⟨error, rfl, Except.error.inj same⟩
      · rintro ⟨_, ⟨⟩, rfl⟩
        rfl
  | ok found =>
      constructor
      · nofun
      · rintro ⟨_, ⟨⟩, _⟩

/-- Steps that fail without their values fail with them. -/
theorem bind_eq_error {rest : Except ε Unit} {next : α → Except ε β}
    (failed : ((result.map fun _ => ()) >>= fun _ => rest) = .error error)
    (later : ∀ value, rest = .error error → next value = .error error) :
    result >>= next = .error error := by
  cases result with
  | error fault =>
      cases failed
      rfl
  | ok value => exact later value failed

end Results

section Lists

variable {α ε : Type} {check : α → Except ε Unit} {items : List α} {error : ε}

/-- A list of checks passes if every one does. -/
theorem forM_eq_ok_iff : forM items check = .ok () ↔ ∀ item ∈ items, check item = .ok () := by
  induction items with
  | nil => simp [pure, Except.pure]
  | cons head rest ih =>
      rw [List.forM_cons, List.forall_mem_cons, ← ih]
      cases check head with
      | error error => simp [bind, Except.bind]
      | ok done => simp [bind, Except.bind]

/-- A list of checks fails as the first one does that fails. -/
theorem forM_eq_error_iff : forM items check = .error error ↔
    ∃ before item after, items = before ++ item :: after ∧
      (∀ earlier ∈ before, check earlier = .ok ()) ∧ check item = .error error := by
  constructor
  · intro failed
    induction items with
    | nil => cases failed
    | cons head rest ih =>
        rw [List.forM_cons] at failed
        cases checked : check head with
        | error fault =>
            rw [checked] at failed
            cases failed
            exact ⟨[], head, rest, rfl, by simp, checked⟩
        | ok done =>
            rw [checked] at failed
            obtain ⟨before, item, after, rfl, passed, refused⟩ := ih failed
            exact ⟨head :: before, item, after, rfl, List.forall_mem_cons.mpr ⟨checked, passed⟩,
              refused⟩
  · rintro ⟨before, item, after, rfl, passed, refused⟩
    rw [List.forM_append, forM_eq_ok_iff.mpr passed, List.forM_cons, refused]
    rfl

end Lists

end NodeSync
