/-
# Column affinities

The declared type of a column pulls what is stored in it towards that type, without loss: text that
is a number becomes the number in a numeric column, an integral real becomes an integer in an
integer column and an integer a real in a real column, and a number becomes its text in a text
column.  A comparison pulls the literal beside a column in the same way.

* `Affinity.store` : what a column stores of a cell;
* `Affinity.operand` : what a literal beside a column is compared as.
-/
import SqlStore.Double.Rounded
import SqlStore.Schema.Column
import SqlStore.Store.Cell

namespace SqlStore

/-! ## Numbers in text -/

/-- A character that may surround a number. -/
def isBlank (c : Char) : Bool := c == ' ' || ('\t' ≤ c && c ≤ '\r')

/-- The natural that decimal digits denote. -/
def digitsValue (digits : List Char) : Nat :=
  digits.foldl (fun n c => 10 * n + (c.toNat - '0'.toNat)) 0

/-- A sign, if there is one, and the rest. -/
def splitSign : List Char → Bool × List Char
  | '-' :: rest => (true, rest)
  | '+' :: rest => (false, rest)
  | rest => (false, rest)

/-- The part of a number after its digits: nothing or an exponent, which is capped where it decides
alone whether the number is zero or infinite. -/
def exponent? : List Char → Option Int
  | [] => some 0
  | c :: rest =>
      if c == 'e' || c == 'E' then
        let (negative, digits) := splitSign rest
        if digits.isEmpty || !digits.all Char.isDigit then none
        else
          let size : Int := min (digitsValue digits) 10000
          some (if negative then -size else size)
      else none

/-- The number that a text is, blanks around it apart: an integer if the text has digits only and
fits, else a real. -/
def numberOfText? (s : String) : Option Cell :=
  let trimmed := (s.toList.dropWhile isBlank).reverse.dropWhile isBlank |>.reverse
  let (negative, unsigned) := splitSign trimmed
  let whole := unsigned.takeWhile Char.isDigit
  let rest := unsigned.dropWhile Char.isDigit
  let (fraction, tail) := match rest with
    | '.' :: rest => (some (rest.takeWhile Char.isDigit), rest.dropWhile Char.isDigit)
    | rest => (none, rest)
  let digits := whole ++ fraction.getD []
  let coefficient := digitsValue digits
  let signed : Int := if negative then -coefficient else coefficient
  if digits.isEmpty then none
  else
    match exponent? tail with
    | none => none
    | some exponent =>
        if fraction.isNone && tail.isEmpty && Int64.minValue.toInt ≤ signed &&
            signed ≤ Int64.maxValue.toInt then some (.integer (Int64.ofInt signed))
        else some (.real (.ofDecimal negative coefficient (exponent - (fraction.getD []).length)))

/-! ## Conversions -/

namespace Cell

/-- A text that is a number becomes that number. -/
def numeric : Cell → Cell
  | text s => (numberOfText? s).getD (text s)
  | c => c

/-- A number that is an integer strictly inside the range becomes that integer. -/
def integral : Cell → Cell
  | real x =>
      match x.toInt? with
      | some n =>
          if Int64.minValue.toInt < n && n < Int64.maxValue.toInt then integer (Int64.ofInt n)
          else real x
      | none => real x
  | c => c

/-- An integer becomes a real, and a zero loses its sign. -/
def fractional : Cell → Cell
  | integer n => real (.ofInt n.toInt)
  | real x => real x.withoutNegativeZero
  | c => c

/-- The text of a cell; `NULL` has none. -/
def text? : Cell → Option String
  | null => none
  | integer n => some (toString n)
  | real x => some x.generalText
  | text s => some s

/-- A number becomes its text. -/
def textual (c : Cell) : Cell := c.text?.elim null text

end Cell

/-! ## Affinities -/

/-- What a column pulls cells towards. -/
inductive Affinity
  | integer
  | real
  | text
deriving DecidableEq, Inhabited

/-- The affinity of a declared type. -/
def DataKind.affinity : DataKind → Affinity
  | .integer => .integer
  | .real => .real
  | .text | .char _ => .text

namespace Affinity

/-- What a column stores of a cell. -/
def store : Affinity → Cell → Cell
  | integer, c => c.numeric.integral
  | real, c => c.numeric.fractional
  | text, c => c.textual

/-- What a literal beside a column is compared as. -/
def operand : Affinity → Cell → Cell
  | integer, c | real, c => c.numeric
  | text, c => c.textual

/-- Comparison of the cells of two columns: texts are read as numbers if a column is numeric. -/
def orderAcross (a b : Affinity) (x y : Cell) : Option Ordering :=
  if a == text && b == text then x.order y else x.numeric.order y.numeric

end Affinity

end SqlStore
