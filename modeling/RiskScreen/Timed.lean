/-!
# Results that take time

A result comes with the milliseconds it takes. Waiting for it up to a limit gives the result
unless it takes strictly longer.
-/

namespace RiskScreen

/-- A value that is there after a number of milliseconds. -/
structure Timed (α : Type) where
  delay : Nat
  value : α
  deriving Repr

namespace Timed

variable {α : Type}

/-- The value that is there at once. -/
def now (value : α) : Timed α := ⟨0, value⟩

/-- The value, unless it takes longer than `limit`. -/
def within (limit : Nat) (awaited : Timed α) : Option α :=
  if awaited.delay ≤ limit then some awaited.value else none

theorem within_eq_some_iff {limit : Nat} {awaited : Timed α} {value : α} :
    awaited.within limit = some value ↔ awaited.delay ≤ limit ∧ awaited.value = value := by
  simp [within]

theorem within_eq_none_iff {limit : Nat} {awaited : Timed α} :
    awaited.within limit = none ↔ limit < awaited.delay := by
  simp [within]

end Timed

end RiskScreen
