/-!
Rounding of a quotient of naturals to the nearest natural. A value in the middle between two
naturals is equally near to both; a tie rule says which of them it goes to.
-/

set_option autoImplicit false

namespace Keyscan

/-- The neighbour that a value in the middle between two naturals goes to. -/
inductive TieRule where
  /-- The even one. -/
  | toEven
  /-- The greater one. -/
  | awayFromZero
  deriving DecidableEq, Repr

/-- Whether the value in the middle between a natural and the next one goes down. -/
def TieRule.goesDownTo : TieRule → Nat → Bool
  | .toEven, lower => lower % 2 == 0
  | .awayFromZero, _ => false

/-- The quotient rounded to the nearest natural. -/
def roundDiv (tie : TieRule) (num den : Nat) : Nat :=
  let q := num / den
  let r := num % den
  if 2 * r < den ∨ (2 * r = den ∧ tie.goesDownTo q) then q else q + 1

end Keyscan
