import Stomp.Decimal.Double

/-!
# Shortest decimals

The fewest digits that read back as a double. The decimals that round to a double fill an interval
around it, whose ends belong to it when the mantissa is even; of the decimals with the fewest
digits in that interval the nearest one is taken.
-/

namespace Stomp

/-- The value `0.d₁d₂… * 10 ^ point`. -/
structure Digits where
  digits : List Char
  point : Int

namespace Dyadic

/-- Four times the value and the two ends of its interval, over a common denominator. -/
private structure Interval where
  value : Nat
  low : Nat
  high : Nat
  den : Nat
  closed : Bool

private def interval (d : Dyadic) : Interval :=
  let up := Nat.pow 2 d.exponent.toNat
  let m := d.mantissa
  -- below a power of two the neighbour is half as far
  let below := if m = Nat.pow 2 52 ∧ -1074 < d.exponent then 1 else 2
  ⟨4 * m * up, (4 * m - below) * up, (4 * m + 2) * up, 4 * Nat.pow 2 (-d.exponent).toNat,
    decide (m % 2 = 0)⟩

/-- The exponent `p` with `10 ^ (p - 1) ≤ num / den < 10 ^ p`. -/
private def pointOf (num den : Nat) : Int :=
  if den ≤ num then (Nat.toDigits 10 (num / den)).length
  else
    let zeros := (Nat.toDigits 10 (den / num)).length
    if den ≤ num * Nat.pow 10 (zeros - 1) then 2 - (zeros : Int) else 1 - (zeros : Int)

private def inside (i : Interval) (num den : Nat) : Bool :=
  if i.closed then decide (i.low * den ≤ num * i.den ∧ num * i.den ≤ i.high * den)
  else decide (i.low * den < num * i.den ∧ num * i.den < i.high * den)

/-- The nearer of the two neighbours on the grid of step `10 ^ k` that lies in the interval. -/
private def onGrid? (i : Interval) (k : Int) : Option Nat :=
  let up := Nat.pow 10 k.toNat
  let down := Nat.pow 10 (-k).toNat
  let q := i.value * down / (i.den * up)
  let hit (n : Nat) : Bool := inside i (n * up) down
  let twice := 2 * (i.value * down % (i.den * up))
  let upper : Bool := decide (i.den * up < twice) || (twice == i.den * up && q % 2 == 1)
  match hit q, hit (q + 1) with
  | true, true => some (if upper then q + 1 else q)
  | true, false => some q
  | false, true => some (q + 1)
  | false, false => none

private def trimZeros (ds : List Char) : List Char := (ds.reverse.dropWhile (· == '0')).reverse

private def search (i : Interval) (point : Int) : Nat → Nat → Digits
  | 0, _ => ⟨['0'], 1⟩
  | left + 1, count =>
    let k := point - count
    match onGrid? i k with
    | some n =>
      let ds := Nat.toDigits 10 n
      ⟨trimZeros ds, k + ds.length⟩
    | none => search i point left (count + 1)

/-- Seventeen digits always suffice. -/
def shortest (d : Dyadic) : Digits :=
  if d.mantissa = 0 then ⟨['0'], 1⟩
  else
    let i := d.interval
    search i (pointOf i.value i.den) 17 1

end Dyadic

/-- How the digits of a real are laid out. -/
structure DecimalLayout where
  leastPositional : Int
  mostPositional : Int
  mark : Char
  exponentWidth : Nat

/-- Positional from 10⁻⁴ up to below 10¹⁶, always with a fraction; otherwise with a signed exponent
of at least two digits. -/
def DecimalLayout.general : DecimalLayout := ⟨-4, 16, 'e', 2⟩

namespace DecimalLayout

private def positional (ds : List Char) (point : Int) : List Char :=
  if point ≤ 0 then '0' :: '.' :: List.replicate (-point).toNat '0' ++ ds
  else
    let n := point.toNat
    if ds.length ≤ n then ds ++ List.replicate (n - ds.length) '0' ++ ['.', '0']
    else ds.take n ++ '.' :: ds.drop n

private def scientific (l : DecimalLayout) (ds : List Char) (exponent : Int) : List Char :=
  let power := Nat.toDigits 10 exponent.natAbs
  let fraction := match ds.drop 1 with
    | [] => []
    | rest => '.' :: rest
  ds.take 1 ++ fraction ++
    [l.mark, if exponent < 0 then '-' else '+'] ++
    List.replicate (l.exponentWidth - power.length) '0' ++ power

def write (l : DecimalLayout) (d : Digits) : List Char :=
  let exponent := d.point - 1
  if l.leastPositional ≤ exponent ∧ exponent < l.mostPositional then positional d.digits d.point
  else l.scientific d.digits exponent

end DecimalLayout

/-- The shortest text of a double. -/
def shortestText (x : Float) : String :=
  match Double.ofFloat x with
  | .undefined => "nan"
  | .infinite negative => if negative then "-inf" else "inf"
  | .finite d =>
    String.ofList ((if d.negative then ['-'] else []) ++ DecimalLayout.general.write d.shortest)

end Stomp
