import Stomp.Decimal.Double

/-!
# Fixed places

A double with a fixed number of decimals, rounded from its exact value with halves to even.
-/

namespace Stomp

private def padLeft (width : Nat) (ds : List Char) : List Char :=
  List.replicate (width - ds.length) '0' ++ ds

/-- The text of a quotient with `places` decimals. -/
def fixedPlaces (places num den : Nat) : List Char :=
  let ds := padLeft (places + 1) (Nat.toDigits 10 (roundHalfEven (num * Nat.pow 10 places) den))
  ds.take (ds.length - places) ++ '.' :: ds.drop (ds.length - places)

def fixedText (places : Nat) (x : Float) : String :=
  match Double.ofFloat x with
  | .undefined => "nan"
  | .infinite negative => if negative then "-inf" else "inf"
  | .finite d =>
    let (num, den) := d.ratio
    String.ofList ((if d.negative then ['-'] else []) ++ fixedPlaces places num den)

end Stomp
