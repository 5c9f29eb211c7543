/-
# Double-precision reals

A `Double` is the sixty-four bits of a binary floating-point number.  The library never computes
with machine floats: `units` reads a double as a whole number of units of `2 ^ -1074`, the smallest
positive double, and every comparison and conversion is arithmetic on that integer.

* `Double.units` : the exact value of a finite double, in units of `2 ^ -1074`;
* `Double.same` : numeric equality: a not-a-number equals nothing and `-0.0` equals `0.0`;
* `Double.ofUnits` : the double nearest to a ratio, a half going to the even neighbour.
-/
namespace SqlStore

/-- A double-precision real, held as its bits with the sign bit first. -/
structure Double where
  /-- The sign bit, eleven exponent bits and fifty-two fraction bits. -/
  bits : UInt64
deriving DecidableEq, Inhabited

namespace Double

/-! ## Fields -/

/-- The value of the sign bit. -/
def signBit : Nat := 1 <<< 63

/-- How many doubles share a sign and an exponent: one for each fraction. -/
def binade : Nat := 1 <<< 52

/-- How many units of `2 ^ -1074` make one. -/
def unitsPerOne : Nat := 1 <<< 1074

/-- The magnitude bits of the infinities; larger magnitudes are not numbers. -/
def infinityMagnitude : Nat := 2047 * binade

/-- Whether the sign bit is set. -/
def negative (x : Double) : Bool := signBit ≤ x.bits.toNat

/-- The bits below the sign bit.  They order the numbers of one sign by size. -/
def magnitude (x : Double) : Nat := x.bits.toNat % signBit

/-- Whether the double is a number other than the infinities. -/
def isFinite (x : Double) : Bool := x.magnitude < infinityMagnitude

/-- Whether the double is not a number. -/
def isNaN (x : Double) : Bool := infinityMagnitude < x.magnitude

/-- The power of two, above the smallest one, that the significand counts. -/
def scale (x : Double) : Nat := x.magnitude / binade - 1

/-- The integer that `2 ^ scale` units are multiplied by. -/
def significand (x : Double) : Nat :=
  if x.magnitude / binade = 0 then x.magnitude % binade else binade + x.magnitude % binade

/-- The distance from zero in units of `2 ^ -1074`. -/
def unitMagnitude (x : Double) : Nat := x.significand <<< x.scale

/-- The value in units of `2 ^ -1074`.  The infinities come out beyond every finite value. -/
def units (x : Double) : Int :=
  if x.negative then -(x.unitMagnitude : Int) else x.unitMagnitude

/-! ## Comparison -/

/-- The order of two doubles, absent when one of them is not a number. -/
def order (x y : Double) : Option Ordering :=
  if x.isNaN || y.isNaN then none else some (compare x.units y.units)

/-- Numeric equality: a not-a-number differs from itself, the two zeros are equal. -/
def same (x y : Double) : Bool := x.order y == some .eq

/-! ## Construction -/

/-- The double of the given sign and magnitude bits. -/
def ofMagnitude (negative : Bool) (magnitude : Nat) : Double :=
  ⟨UInt64.ofNat (if negative then signBit + magnitude else magnitude)⟩

/-- The quotient of two naturals rounded to the nearest natural, a half going to the even one. -/
def nearestEven (num den : Nat) : Nat :=
  let quotient := num / den
  let twice := 2 * (num % den)
  if twice < den then quotient
  else if den < twice then quotient + 1
  else quotient + quotient % 2

/-- The magnitude bits nearest to `num / den` units.  Magnitudes count on from one binade to the
next, so a significand that rounds up to the next power of two needs no adjustment, and a ratio
beyond the largest finite double becomes infinite. -/
def nearestMagnitude (num den : Nat) : Nat :=
  let scale := (num / den).log2 - 52
  min (scale * binade + nearestEven num (den <<< scale)) infinityMagnitude

/-- The double nearest to `num / den` units of `2 ^ -1074`, with the given sign. -/
def ofUnits (negative : Bool) (num den : Nat) : Double :=
  ofMagnitude negative (nearestMagnitude num den)

/-- The double nearest to an integer. -/
def ofInt (n : Int) : Double := ofUnits (n < 0) (n.natAbs * unitsPerOne) 1

/-- The product of two finite doubles. -/
def mul (x y : Double) : Double :=
  ofUnits (x.negative != y.negative) (x.unitMagnitude * y.unitMagnitude) unitsPerOne

/-- The quotient of a finite double by a finite double other than zero. -/
def div (x y : Double) : Double :=
  ofUnits (x.negative != y.negative) (x.unitMagnitude * unitsPerOne) y.unitMagnitude

/-- The integer that a double equals, if there is one. -/
def toInt? (x : Double) : Option Int :=
  if x.isFinite && x.unitMagnitude % unitsPerOne == 0 then some (x.units / unitsPerOne) else none

/-- The same number with the positive sign when it is zero. -/
def withoutNegativeZero (x : Double) : Double := if x.magnitude = 0 then ⟨0⟩ else x

/-- Widens the bits of a single-precision real; every single is exactly a double. -/
def ofSingle (bits : UInt32) : Double :=
  let fractions := 1 <<< 23
  let negative := 256 ≤ bits.toNat / fractions
  let exponent := bits.toNat / fractions % 256
  let fraction := bits.toNat % fractions
  if exponent = 255 then ofMagnitude negative (infinityMagnitude + fraction <<< 29)
  else if exponent = 0 then ofUnits negative (fraction <<< 925) 1
  else ofUnits negative ((fractions + fraction) <<< (924 + exponent)) 1

end Double

end SqlStore
