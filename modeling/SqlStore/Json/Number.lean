/-
# The value of a JSON number

A lexeme without fraction and exponent that fits a sixty-four bit word is an integer.  Any other is
a real, computed from the leading digits that fit an unsigned word: they are converted to a double,
which is then multiplied or divided by a power of ten.  Two roundings can leave the result one step
off the nearest double; this is the arithmetic that the format's readers agree on.
-/
import SqlStore.Json.Basic

namespace SqlStore

/-- The value of a number. -/
inductive JsonNumber
  | integer (n : Int)
  | real (x : Double)

namespace JsonNumber

/-- A lexeme taken apart. -/
structure Parts where
  negative : Bool
  whole : List Char
  fraction : List Char
  /-- The digits of the exponent and whether it is negative. -/
  exponent : Option (Bool × List Char)

/-- The parts of a lexeme. -/
def Parts.ofLexeme (lexeme : String) : Parts :=
  let chars := lexeme.toList
  let negative := chars.head? == some '-'
  let chars := if negative then chars.drop 1 else chars
  let whole := chars.takeWhile Char.isDigit
  let rest := chars.dropWhile Char.isDigit
  let (fraction, rest) :=
    match rest with
    | '.' :: rest => (rest.takeWhile Char.isDigit, rest.dropWhile Char.isDigit)
    | rest => ([], rest)
  let exponent :=
    match rest with
    | _ :: '-' :: digits => some (true, digits)
    | _ :: '+' :: digits => some (false, digits)
    | _ :: digits => some (false, digits)
    | [] => none
  { negative, whole, fraction, exponent }

/-- The value of a digit. -/
def digitValue (c : Char) : Nat := c.toNat - 48

/-- Appends digits to a number as long as it stays below a bound, and gives the number of digits
that are left over. -/
def accumulate (bound : Nat) : Nat → List Char → Nat × Nat
  | n, [] => (n, 0)
  | n, c :: rest =>
      if n * 10 + digitValue c < bound then accumulate bound (n * 10 + digitValue c) rest
      else (n, rest.length + 1)

/-- The double nearest to a power of ten. -/
def powerOfTen (n : Nat) : Double := .ofInt (Nat.pow 10 n)

/-- Divides by `10 ^ 308` as often as told, or until nothing is left. -/
def shrink : Nat → Double → Double
  | 0, x => x
  | n + 1, x => if x.magnitude = 0 then x else shrink n (x.div (powerOfTen 308))

/-- A significand times a power of ten; absent when it is too large for a double. -/
def scaled (significand : Nat) (exponent : Int) : Option Double :=
  let x := Double.ofInt significand
  if 308 < exponent then if significand = 0 then some x else none
  else if 0 ≤ exponent then
    let y := x.mul (powerOfTen exponent.toNat)
    if y.isFinite then some y else none
  else
    let times := ((-exponent).toNat - 1) / 308
    some ((shrink times x).div (powerOfTen ((-exponent).toNat - 308 * times)))

/-- The number of a lexeme; absent when it is too large for a double. -/
def ofLexeme (lexeme : String) : Option JsonNumber :=
  let parts := Parts.ofLexeme lexeme
  let signed (x : Double) : JsonNumber := .real (.ofMagnitude parts.negative x.magnitude)
  let (leading, dropped) := accumulate UInt64.size 0 parts.whole
  if parts.fraction = [] ∧ parts.exponent = none ∧ dropped = 0 then
    if ¬ parts.negative then some (.integer leading)
    else if 0 < leading ∧ leading ≤ 0x8000000000000000 then some (.integer (-(leading : Int)))
    else some (signed (.ofInt leading))
  else
    let (significand, unread) := accumulate UInt64.size leading parts.fraction
    let exponent : Int := dropped - ((parts.fraction.length - unread : Nat) : Int)
    match parts.exponent with
    | none => (scaled significand exponent).map signed
    | some (negative, digits) =>
        match accumulate 0x80000000 0 digits with
        | (e, 0) =>
            (scaled significand (if negative then exponent - e else exponent + e)).map signed
        | _ => if negative ∨ significand = 0 then some (signed (.ofInt 0)) else none

end JsonNumber

end SqlStore
