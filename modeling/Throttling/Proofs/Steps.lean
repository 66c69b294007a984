/-!
# Steps that can fail

When a step that may end in an error succeeds: after another such step, with its error replaced,
or behind a guard.
-/

set_option autoImplicit false

namespace Throttling

variable {ε α β : Type}

/-- Two steps succeed exactly if the first one does and then the second one. -/
theorem bind_eq_ok_iff {step : Except ε α} {next : α → Except ε β} {result : β} :
    step >>= next = .ok result ↔ ∃ x, step = .ok x ∧ next x = .ok result := by
  cases step with
  | error e => simp [bind, Except.bind]
  | ok x => simp [bind, Except.bind]

theorem mapError_eq_ok_iff {ε' : Type} {f : ε → ε'} {step : Except ε α} {x : α} :
    step.mapError f = .ok x ↔ step = .ok x := by
  cases step with
  | error e => exact ⟨nofun, nofun⟩
  | ok x => exact ⟨fun | rfl => rfl, fun | rfl => rfl⟩

/-- A guarded step succeeds exactly if the guard does not hold and the step does. -/
theorem guard_eq_ok_iff {p : Prop} [Decidable p] {e : ε} {next : β → Except ε α}
    {step : Except ε α} {result : α} :
    (if p then throw e >>= next else step) = .ok result ↔ ¬ p ∧ step = .ok result := by
  by_cases h : p
  · simp [h, throw, throwThe, MonadExceptOf.throw, bind, Except.bind]
  · simp [h]

end Throttling
