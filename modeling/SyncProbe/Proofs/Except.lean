/-!
# Steps that may fail

A chain of steps that may fail gives a result exactly if each step does. These lemmas take such a
chain apart.

Results:
1. `bind_eq_ok_iff`: two steps give a result if both do.
2. `mapError_eq_ok_iff`, `mapError_eq_error_iff`, `map_eq_ok_iff`: changing errors or results keeps
   what fails.
-/

namespace SyncProbe

variable {ε ε' α β : Type} {step : Except ε α}

theorem bind_eq_ok_iff {next : α → Except ε β} {result : β} :
    step >>= next = .ok result ↔ ∃ value, step = .ok value ∧ next value = .ok result := by
  cases step <;> simp [bind, Except.bind]

theorem mapError_eq_ok_iff {relabel : ε → ε'} {value : α} :
    step.mapError relabel = .ok value ↔ step = .ok value := by
  constructor <;> intro equal <;> cases step <;> cases equal <;> rfl

theorem mapError_eq_error_iff {relabel : ε → ε'} {error : ε'} :
    step.mapError relabel = .error error ↔
      ∃ cause, step = .error cause ∧ relabel cause = error := by
  constructor
  · intro equal
    cases step with
    | ok value => cases equal
    | error cause =>
      cases equal
      exact ⟨cause, rfl, rfl⟩
  · rintro ⟨cause, rfl, rfl⟩
    rfl

theorem map_eq_ok_iff {change : α → β} {result : β} :
    change <$> step = .ok result ↔ ∃ value, step = .ok value ∧ change value = result := by
  cases step <;> simp [Functor.map, Except.map]

end SyncProbe
