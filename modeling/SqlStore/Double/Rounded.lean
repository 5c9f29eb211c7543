/-
# Decimal text with a fixed number of digits

Text columns store a real as its fifteen leading decimal digits, and text that looks like a number
is read back as the nearest double.

* `Decimal.rounded` : a positive double rounded to a number of significant digits;
* `Double.generalText` : the text of a double with fifteen digits;
* `Double.ofDecimal` : the double nearest to a coefficient times a power of ten.
-/
import SqlStore.Double.Shortest

namespace SqlStore

/-- A positive finite double rounded to a number of significant digits, a half going up.  A
coefficient that rounds up to the next power of ten loses its zeros like any other. -/
def Decimal.rounded (count : Nat) (x : Double) : Decimal :=
  let point := Decimal.pointAbove (4 * x.unitMagnitude)
  let exponent := point - count
  let num := x.unitMagnitude * Nat.pow 10 (-exponent).toNat
  let den := Double.unitsPerOne * Nat.pow 10 exponent.toNat
  .ofGrid ((2 * num + den) / (2 * den)) exponent

/-- A decimal with an exponent of at least two digits and at least one digit after the point. -/
def Decimal.generalScientific (d : Decimal) : String :=
  let exponent := (d.point - 1).natAbs
  let sign := if d.point - 1 < 0 then "e-" else "e+"
  let padded := if exponent < 10 then "0" ++ toString exponent else toString exponent
  match d.digits with
  | [] => "0.0"
  | c :: rest =>
      String.ofList (c :: '.' :: (if rest.isEmpty then ['0'] else rest)) ++ sign ++ padded

namespace Double

/-- The text of a double in a text column: fifteen digits, positional from `0.0001` up to
`10 ^ 15`. -/
def generalText (x : Double) : String :=
  if x.magnitude = 0 then "0.0"
  else
    let sign := if x.negative then "-" else ""
    if x.isFinite then
      let d := Decimal.rounded 15 x
      sign ++ (if -4 < d.point ∧ d.point ≤ 15 then d.positional else d.generalScientific)
    else sign ++ "Inf"

/-- The double nearest to `coefficient * 10 ^ exponent`. -/
def ofDecimal (negative : Bool) (coefficient : Nat) (exponent : Int) : Double :=
  .ofUnits negative (coefficient * Nat.pow 10 exponent.toNat * unitsPerOne)
    (Nat.pow 10 (-exponent).toNat)

end Double

end SqlStore
