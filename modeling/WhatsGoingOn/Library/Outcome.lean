import Mathlib.Init

/-!
# Outcomes of fallible code

When a computation that may fail returns a given result.
-/

namespace WhatsGoingOn
namespace Outcome

variable {ε α β : Type}

/-- A sequence succeeds exactly when both of its parts do. -/
theorem bind_eq_ok
    {first : Except ε α} {next : α → Except ε β} {result : β} :
    (first >>= next) = .ok result ↔
      ∃ value, first = .ok value ∧ next value = .ok result := by
  cases first with
  | error failure => simp [bind, Except.bind]
  | ok value => simp [bind, Except.bind]

/-- A sequence fails exactly when one of its parts does. -/
theorem bind_eq_error
    {first : Except ε α} {next : α → Except ε β} {failure : ε} :
    (first >>= next) = .error failure ↔
      first = .error failure ∨
        ∃ value, first = .ok value ∧ next value = .error failure := by
  cases first with
  | error reason => simp [bind, Except.bind]
  | ok value => simp [bind, Except.bind]

/-- A mapped computation succeeds exactly when the computation does. -/
theorem map_eq_ok
    {first : Except ε α} {transform : α → β} {result : β} :
    transform <$> first = .ok result ↔
      ∃ value, first = .ok value ∧ transform value = result := by
  cases first with
  | error failure => simp [Functor.map, Except.map]
  | ok value => simp [Functor.map, Except.map]

theorem pure_eq_ok {value result : β} :
    (pure value : Except ε β) = .ok result ↔ value = result := by
  simp [pure, Except.pure]

end Outcome
end WhatsGoingOn
