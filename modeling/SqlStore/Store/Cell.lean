/-
# Cells

A cell is what a table stores at one place: nothing, an integer, a real or a text.  Cells are
ordered nothing first, then numbers by size whatever their kind, then texts by code points; a
comparison with nothing is unknown.

* `Cell.ofOperand?` : the cell that the literal of a value denotes;
* `Cell.order` : comparison, unknown next to `NULL`;
* `Cell.rank` : the total order of `ORDER BY`.
-/
import SqlStore.Value

namespace SqlStore

/-- The content of one column of one row. -/
inductive Cell
  | null
  | integer (n : Int64)
  | real (x : Double)
  | text (s : String)
deriving DecidableEq, Inhabited

namespace Cell

/-- The cell as a value; `NULL` is absent. -/
def toValue? : Cell → Option Value
  | null => none
  | integer n => some (.integer n)
  | real x => some (.real x)
  | text s => some (.text s)

/-- The cell that a literal denotes.  Parentheses around one literal change nothing; around any
other number of literals they are no scalar, and a text cannot hold the character zero. -/
def ofLiteral? : Value → Option Cell
  | .integer n => some (integer n)
  | .real x => some (if x.isFinite then real x else null)
  | .text s => if s.contains '\x00' then none else some (text s)
  | .boolean b => some (integer (if b then 1 else 0))
  | .list [v] => ofLiteral? v
  | .list _ => none

/-- The cell that an operand denotes, absent operands being `NULL`. -/
def ofOperand? (operand : Option Value) : Option Cell :=
  operand.elim (some null) ofLiteral?

/-- Whether the cell is `NULL`. -/
def isNull : Cell → Bool
  | null => true
  | _ => false

/-! ## Order -/

/-- The size of a number in units of `2 ^ -1074`. -/
def units? : Cell → Option Int
  | integer n => some (n.toInt * Double.unitsPerOne)
  | real x => some x.units
  | _ => none

/-- Comparison of numbers with numbers and texts with texts, every number being less than every
text; unknown if a side is `NULL`. -/
def order : Cell → Cell → Option Ordering
  | null, _ => none
  | _, null => none
  | text s, text t => some (compare s t)
  | text _, _ => some .gt
  | _, text _ => some .lt
  | a, b => some (compare a.units? b.units?)

/-- The total order of cells, `NULL` first. -/
def rank (a b : Cell) : Ordering :=
  match a.order b with
  | some o => o
  | none => if a.isNull then (if b.isNull then .eq else .lt) else .gt

/-- Whether two cells are equal and neither is `NULL`. -/
def equals (a b : Cell) : Bool := a.order b == some .eq

end Cell

end SqlStore
