import Stomp.Decimal.Double

/-!
# Time scales

Times are numbers of seconds on some scale: doubles when the client runs, exact rationals where one
reckons with them. Integers beyond the scale have no counterpart on it. An application may give a
time as an integer or on the scale, and both stay apart.
-/

namespace Stomp

class Scale (R : Type) extends Add R, Sub R, Mul R, Div R where
  zero : R
  ofInt? : Int → Option R
  /-- The number `digits / 10 ^ places`. -/
  decimal (digits places : Nat) : R
  lt : R → R → Bool
  le : R → R → Bool

instance : Scale Float where
  zero := 0
  ofInt? := Double.ofInt?
  decimal digits places := Double.ofDecimal false digits (-(places : Int))
  lt x y := x < y
  le x y := x ≤ y

instance : Scale Rat where
  zero := 0
  ofInt? n := some n
  decimal digits places := (digits : Rat) / (Nat.pow 10 places : Nat)
  lt x y := decide (x < y)
  le x y := decide (x ≤ y)

inductive Quantity (R : Type) where
  | whole (n : Int)
  | real (x : R)
deriving DecidableEq

namespace Quantity

variable {R : Type} [Scale R]

def toScale? : Quantity R → Option R
  | .whole n => Scale.ofInt? n
  | .real x => some x

/-- A multiple of an integer; it stays an integer if the factor is one. -/
def times? (factor : Quantity R) (n : Int) : Option (Quantity R) :=
  match factor with
  | .whole k => some (.whole (n * k))
  | .real x => (Scale.ofInt? n).map fun y => .real (y * x)

end Quantity

/-- Milliseconds as seconds. -/
def seconds {R : Type} [Scale R] (milliseconds : R) : R := milliseconds / Scale.decimal 1000 0

end Stomp
