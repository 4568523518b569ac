import Stomp.Json.Basic
import Stomp.Decimal.Double

/-!
# Equality of JSON values

Booleans and numbers compare by their exact numerical values, whatever their kind; the order of the
members of an object does not matter.
-/

namespace Stomp.Json

/-- The exact value of a number: an integer, or a dyadic with a sign. -/
inductive Magnitude where
  | int (n : Int)
  | double (d : Double)

def magnitude? : Json → Option Magnitude
  | .bool b => some (.int (if b then 1 else 0))
  | .int n => some (.int n)
  | .real x => some (.double (Double.ofFloat x))
  | _ => none

/-- Numerator and denominator, the sign in the numerator. -/
def signedRatio (d : Dyadic) : Int × Nat :=
  let (num, den) := d.ratio
  (if d.negative then -(num : Int) else (num : Int), den)

namespace Magnitude

def same : Magnitude → Magnitude → Bool
  | .int m, .int n => m == n
  | .int n, .double (.finite d) => n * (signedRatio d).2 == (signedRatio d).1
  | .double (.finite d), .int n => n * (signedRatio d).2 == (signedRatio d).1
  | .double (.finite d), .double (.finite e) =>
    (signedRatio d).1 * (signedRatio e).2 == (signedRatio e).1 * (signedRatio d).2
  | .double (.infinite s), .double (.infinite t) => s == t
  | _, _ => false

end Magnitude

mutual

def same : Json → Json → Bool
  | .null, .null => true
  | .text s, .text t => s == t
  | .list xs, .list ys => sameItems xs ys
  | .object ms, .object ns => ms.length == ns.length && sameMembers ms ns
  | x, y =>
    match x.magnitude?, y.magnitude? with
    | some m, some n => m.same n
    | _, _ => false

def sameItems : List Json → List Json → Bool
  | [], [] => true
  | x :: xs, y :: ys => same x y && sameItems xs ys
  | _, _ => false

/-- Whether every member of the first list has an equal one of its name in the second. -/
def sameMembers : List (String × Json) → List (String × Json) → Bool
  | [], _ => true
  | (name, x) :: ms, ns =>
    (match Assoc.get? ns name with
      | some y => same x y
      | none => false) && sameMembers ms ns

end

end Stomp.Json
