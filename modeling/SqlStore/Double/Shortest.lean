/-
# Shortest decimal text of a double

The reals that round to a double form an interval, its ends included when the significand is even.
`shortest` takes the coarsest decimal grid with a point in that interval and, of the points on it,
the one nearest to the double.  `text` lays the digits out positionally or with an exponent.

* `Decimal.shortest` : the fewest digits that read back as the double;
* `Double.text` : those digits, written as a `DecimalLayout` asks.
-/
import SqlStore.Double.Basic

namespace SqlStore

/-- How a tie between two decimals that are equally near is decided. -/
inductive TieRule
  | up
  | even
deriving DecidableEq

/-- The positive decimal `0.d₁d₂…dₙ * 10 ^ point`. -/
structure Decimal where
  digits : List Char
  point : Int
deriving DecidableEq

namespace Decimal

/-- The number of decimal digits of a natural; zero has one. -/
def digitCount (n : Nat) : Nat := if n < 10 then 1 else digitCount (n / 10) + 1

/-- The decimal `coefficient * 10 ^ exponent` without zeros at its end. -/
def ofGrid (coefficient : Nat) (exponent : Int) : Decimal :=
  let digits := (toString coefficient).toList
  { digits := (digits.reverse.dropWhile (· == '0')).reverse
    point := digits.length + exponent }

/-- The reals that round to a positive double, in units of `2 ^ -1076`. -/
structure Interval where
  low : Nat
  centre : Nat
  high : Nat
  closed : Bool

/-- Half the gap to each neighbour; the gap below a power of two is half the gap above it. -/
def interval (x : Double) : Interval :=
  let unit := 1 <<< x.scale
  let centre := 4 * x.unitMagnitude
  { low := centre - (if x.significand = Double.binade ∧ 0 < x.scale then unit else 2 * unit)
    centre
    high := centre + 2 * unit
    closed := x.significand % 2 = 0 }

/-- How many units of an interval make one. -/
def unitsPerOne : Nat := 4 * Double.unitsPerOne

/-- The least power of ten above a positive number of units. -/
def pointAbove (centre : Nat) : Int :=
  if unitsPerOne ≤ centre then digitCount (centre / unitsPerOne)
  else 1 - (digitCount ((unitsPerOne - 1) / centre) : Int)

/-- The point of the grid of multiples of `10 ^ exponent` that lies in the interval, if there is
one; of the two that surround the centre the nearer wins. -/
def nearestOnGrid (tie : TieRule) (range : Interval) (exponent : Int) : Option Nat :=
  let step := Nat.pow 10 exponent.toNat * unitsPerOne
  let refine := Nat.pow 10 (-exponent).toNat
  let within (c : Nat) : Bool :=
    if range.closed then range.low * refine ≤ c * step && c * step ≤ range.high * refine
    else range.low * refine < c * step && c * step < range.high * refine
  let below := range.centre * refine / step
  let rest := range.centre * refine % step
  let lower := within below
  let upper := within (below + 1)
  if lower && upper then
    if 2 * rest < step then some below
    else if step < 2 * rest then some (below + 1)
    else match tie with
      | .up => some (below + 1)
      | .even => some (below + below % 2)
  else if lower then some below
  else if upper then some (below + 1)
  else none

/-- The fewest digits that read back as the positive double; seventeen always do. -/
def shortest (tie : TieRule) (x : Double) : Decimal :=
  let range := interval x
  let point := pointAbove range.centre
  let attempt (count : Nat) : Option Decimal :=
    (nearestOnGrid tie range (point - count)).map (ofGrid · (point - count))
  ((List.range 17).findSome? (fun n => attempt (n + 1))).getD ⟨['0'], 1⟩

/-- `d.ddd` written out, with at least one digit on each side of the point. -/
def positional (d : Decimal) : String :=
  let count := d.digits.length
  if d.point ≤ 0 then
    "0." ++ String.ofList (List.replicate (-d.point).toNat '0' ++ d.digits)
  else if count ≤ d.point.toNat then
    String.ofList (d.digits ++ List.replicate (d.point.toNat - count) '0') ++ ".0"
  else
    String.ofList (d.digits.take d.point.toNat) ++ "." ++
      String.ofList (d.digits.drop d.point.toNat)

/-- One digit before the point and a decimal exponent. -/
def scientific (d : Decimal) : String :=
  let exponent := "e" ++ toString (d.point - 1)
  match d.digits with
  | [] => "0" ++ exponent
  | [c] => String.singleton c ++ exponent
  | c :: rest => String.singleton c ++ "." ++ String.ofList rest ++ exponent

end Decimal

/-- Which decimal exponents are written out positionally, and how ties go. -/
structure DecimalLayout where
  lowest : Int
  highest : Int
  tie : TieRule

/-- The text of a finite double. -/
def Double.text (layout : DecimalLayout) (x : Double) : String :=
  let unsigned :=
    if x.magnitude = 0 then "0.0"
    else
      let d := Decimal.shortest layout.tie x
      if layout.lowest < d.point && d.point ≤ layout.highest + 1 then d.positional
      else d.scientific
  if x.negative then "-" ++ unsigned else unsigned

end SqlStore
