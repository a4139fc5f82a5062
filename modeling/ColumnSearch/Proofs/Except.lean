/-!
# Computations that may fail

When a sequence of computations succeeds and when it fails, in terms of its steps.
-/

namespace Except

variable {ε ε' α β : Type}

instance decidableEq [DecidableEq ε] [DecidableEq α] : DecidableEq (Except ε α)
  | .ok value, .ok result => decidable_of_iff (value = result) (by simp)
  | .error failure, .error reason => decidable_of_iff (failure = reason) (by simp)
  | .ok _, .error _ => isFalse nofun
  | .error _, .ok _ => isFalse nofun

/-- A step that succeeds hands its value to the next one. -/
theorem ok_bind (value : α) (second : α → Except ε β) : .ok value >>= second = second value :=
  rfl

/-- A step that fails ends the computation. -/
theorem error_bind (failure : ε) (second : α → Except ε β) :
    .error failure >>= second = .error failure :=
  rfl

/-- Renaming failures leaves a success alone. -/
theorem mapError_ok (value : α) (rename : ε → ε') : (Except.ok value).mapError rename = .ok value :=
  rfl

/-- Renaming failures renames the one there is. -/
theorem mapError_error (failure : ε) (rename : ε → ε') :
    (.error failure : Except ε α).mapError rename = .error (rename failure) :=
  rfl

/-- A sequence succeeds exactly if both steps do. -/
theorem bind_eq_ok_iff {first : Except ε α} {second : α → Except ε β} {result : β} :
    first >>= second = .ok result ↔ ∃ value, first = .ok value ∧ second value = .ok result := by
  cases first with
  | error failure => simp [bind, Except.bind]
  | ok value => simp [bind, Except.bind]

/-- A sequence fails exactly if the first step does, or succeeds and leaves the second to fail. -/
theorem bind_eq_error_iff {first : Except ε α} {second : α → Except ε β} {failure : ε} :
    first >>= second = .error failure ↔
      first = .error failure ∨ ∃ value, first = .ok value ∧ second value = .error failure := by
  cases first with
  | error failure => simp [bind, Except.bind]
  | ok value => simp [bind, Except.bind]

@[simp]
private theorem exists_eq_ok_unit_iff {step : Except ε Unit} :
    (∃ value, step = .ok value) ↔ step = .ok () :=
  ⟨fun ⟨_, passed⟩ => passed, fun passed => ⟨(), passed⟩⟩

/-- Renaming failures neither adds nor removes a success. -/
@[simp]
theorem mapError_eq_ok_iff {step : Except ε α} {rename : ε → ε'} {value : α} :
    step.mapError rename = .ok value ↔ step = .ok value := by
  cases step with
  | error failure => exact ⟨nofun, nofun⟩
  | ok result =>
      constructor
      · rintro ⟨⟩
        rfl
      · rintro ⟨⟩
        rfl

/-- A failure under a renaming is the renaming of a failure. -/
theorem mapError_eq_error_iff {step : Except ε α} {rename : ε → ε'} {failure : ε'} :
    step.mapError rename = .error failure ↔
      ∃ reason, step = .error reason ∧ rename reason = failure := by
  cases step with
  | error reason => simp only [mapError_error, Except.error.injEq, exists_eq_left']
  | ok result => simp only [mapError_ok, reduceCtorEq, false_and, exists_false]

/-- A check passes exactly if what it looks for is not there. -/
theorem ite_error_eq_ok_iff {found : Prop} [Decidable found] {failure : ε} :
    (if found then .error failure else .ok () : Except ε Unit) = .ok () ↔ ¬found := by
  by_cases present : found
  · simp [present]
  · simp [present]

/-- A check fails exactly on what it looks for, with its own failure. -/
theorem ite_error_eq_error_iff {found : Prop} [Decidable found] {failure reason : ε} :
    (if found then .error failure else .ok () : Except ε Unit) = .error reason ↔
      found ∧ failure = reason := by
  by_cases present : found
  · simp [present]
  · simp [present]

/-- A pure computation succeeds with its value. -/
@[simp]
theorem pure_eq_ok_iff {value result : α} :
    (pure value : Except ε α) = .ok result ↔ value = result := by
  simp [pure, Except.pure]

end Except
