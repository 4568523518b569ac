import Stomp.Decimal.Rounding

/-!
# The values of doubles

A finite double is an integer times a power of two. Reading takes the bits apart; writing finds the
double nearest to a quotient of naturals, where a half goes to the even neighbour.
-/

namespace Stomp

/-- The finite value `mantissa * 2 ^ exponent`, with its sign. -/
structure Dyadic where
  negative : Bool
  mantissa : Nat
  exponent : Int
deriving DecidableEq, Repr

namespace Dyadic

/-- Numerator and denominator of the absolute value. -/
def ratio (d : Dyadic) : Nat × Nat :=
  if 0 ≤ d.exponent then (d.mantissa * Nat.pow 2 d.exponent.toNat, 1)
  else (d.mantissa, Nat.pow 2 (-d.exponent).toNat)

/-- The integer part, with the fraction cut off. -/
def truncate (d : Dyadic) : Int :=
  let n := d.ratio.1 / d.ratio.2
  if d.negative then -(n : Int) else n

end Dyadic

inductive Double where
  | finite (d : Dyadic)
  | infinite (negative : Bool)
  | undefined

namespace Double

def ofBits (bits : Nat) : Double :=
  let negative := decide (bits / Nat.pow 2 63 % 2 = 1)
  let field : Nat := bits / Nat.pow 2 52 % 2048
  let fraction : Nat := bits % Nat.pow 2 52
  if field = 2047 then if fraction = 0 then .infinite negative else .undefined
  else if field = 0 then .finite ⟨negative, fraction, -1074⟩
  else .finite ⟨negative, Nat.pow 2 52 + fraction, (field : Int) - 1075⟩

def ofFloat (x : Float) : Double := ofBits x.toBits.toNat

/-- The exponent at which the quotient has 53 binary digits before the point, at least -1074. -/
private def exponentFor (num den : Nat) : Int :=
  let guess := (num.log2 : Int) - den.log2 - 52
  let fits (e : Int) : Bool :=
    if 0 ≤ e then decide (Nat.pow 2 52 * (den * Nat.pow 2 e.toNat) ≤ num)
    else decide (Nat.pow 2 52 * den ≤ num * Nat.pow 2 (-e).toNat)
  max (-1074) (if fits guess then guess else guess - 1)

/-- The bits of the double nearest to `num / den`, for a positive `den`; past the largest double
these are the bits of infinity. -/
def nearestBits (num den : Nat) : Nat :=
  if num = 0 then 0
  else
    let e := exponentFor num den
    let m :=
      if 0 ≤ e then roundHalfEven num (den * Nat.pow 2 e.toNat)
      else roundHalfEven (num * Nat.pow 2 (-e).toNat) den
    -- a mantissa that rounds up to 2 ^ 53 carries into the exponent field by itself
    let bits :=
      if m < Nat.pow 2 52 then m
      else (e + 1075).toNat * Nat.pow 2 52 + (m - Nat.pow 2 52)
    min bits (2047 * Nat.pow 2 52)

def toFloat (negative : Bool) (num den : Nat) : Float :=
  let x := Float.ofBits (UInt64.ofNat (nearestBits num den))
  if negative then -x else x

/-- The double nearest to an integer, or `none` past the largest double. -/
def ofInt? (n : Int) : Option Float :=
  if nearestBits n.natAbs 1 < 2047 * Nat.pow 2 52 then
    some (toFloat (decide (n < 0)) n.natAbs 1)
  else none

/-- The double nearest to `digits * 10 ^ exponent`. The exponent is cut to where every double is
zero or infinite, counted from the first digit. -/
def ofDecimal (negative : Bool) (digits : Nat) (exponent : Int) : Float :=
  let size := (Nat.toDigits 10 digits).length
  if digits = 0 then toFloat negative 0 1
  else if exponent + size < -400 then toFloat negative 0 1
  else if 400 < exponent + size then toFloat negative (Nat.pow 2 1100) 1
  else if 0 ≤ exponent then toFloat negative (digits * Nat.pow 10 exponent.toNat) 1
  else toFloat negative digits (Nat.pow 10 (-exponent).toNat)

end Double

end Stomp
