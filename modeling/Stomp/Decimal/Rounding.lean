/-!
# Rounding quotients

The integer nearest to a quotient, where a half goes to the even neighbour.
-/

namespace Stomp

/-- The integer nearest to `num / den`, for a positive `den`. -/
def roundHalfEven (num den : Nat) : Nat :=
  let q := num / den
  let twice := 2 * (num % den)
  if twice < den then q
  else if den < twice then q + 1
  else if q % 2 = 0 then q else q + 1

end Stomp
