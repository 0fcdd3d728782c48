/-! Steps that may fail, one after the other. -/

namespace FoldTree.Outcome

variable {ε α β : Type}

/-- A value goes into the next step. -/
@[simp]
theorem ok_bind (value : α) (next : α → Except ε β)
    : (Except.ok value >>= next) = next value :=
  rfl

/-- A fault ends all steps. -/
@[simp]
theorem error_bind (fault : ε) (next : α → Except ε β)
    : (Except.error fault >>= next) = .error fault :=
  rfl

/-- A value alone is a step that succeeds. -/
@[simp]
theorem pure_eq_ok (value : α) : (pure value : Except ε α) = .ok value := rfl

/-- A fault that is thrown is the outcome. -/
@[simp]
theorem throw_eq_error (fault : ε) : (throw fault : Except ε α) = .error fault := rfl

variable {step : Except ε α} {next : α → Except ε β} {value : β} {fault : ε}

/-- Two steps come to a value if the first one does and the second one does with it. -/
theorem bind_eq_ok
    : (step >>= next) = .ok value ↔ ∃ between, step = .ok between ∧ next between = .ok value := by
  cases step <;> simp

/-- What is made of a step's value is there if the step comes to a value of which it is made. -/
theorem map_eq_ok {make : α → β}
    : step.map make = .ok value ↔ ∃ found, step = .ok found ∧ make found = value := by
  cases step with
  | ok found =>
      constructor
      · intro made
        exact ⟨found, rfl, Except.ok.inj made⟩
      · rintro ⟨other, same, rfl⟩
        cases same
        rfl
  | error fault => exact ⟨nofun, nofun⟩

/-- A step comes to the same value whatever its faults are called. -/
theorem mapError_eq_ok {ζ : Type} {name : ε → ζ} {result : α}
    : step.mapError name = .ok result ↔ step = .ok result := by
  cases step with
  | ok found =>
      constructor
      · rintro ⟨⟩
        rfl
      · rintro ⟨⟩
        rfl
  | error fault => exact ⟨nofun, nofun⟩

/-- A step fails with a fault by the name of one that it fails with. -/
theorem mapError_eq_error {ζ : Type} {name : ε → ζ} {named : ζ}
    : step.mapError name = .error named ↔ ∃ fault, step = .error fault ∧ name fault = named := by
  cases step with
  | ok found => exact ⟨nofun, nofun⟩
  | error fault =>
      constructor
      · intro stops
        exact ⟨fault, rfl, Except.error.inj stops⟩
      · rintro ⟨other, same, rfl⟩
        cases same
        rfl

end FoldTree.Outcome
