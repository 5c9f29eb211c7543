/-
# Scalar values

A `Value` is what a column stores or a condition compares with.  Lists occur only as operands of
`IN` and `NOT IN`.  The literal of a value is its SQL text: text is quoted with every quote
doubled, booleans are `0` and `1`, and a real that is not finite is `NULL`.
-/
import SqlStore.Double.Shortest

namespace SqlStore

/-- The kinds of scalars. -/
inductive ScalarKind
  | integer
  | real
  | text
  | boolean
  | list
deriving DecidableEq, Inhabited

/-- The name of a kind, as messages show it. -/
def ScalarKind.name : ScalarKind → String
  | .integer => "Integer"
  | .real => "Real"
  | .text => "Text"
  | .boolean => "Boolean"
  | .list => "List"

/-- A scalar storable in one column, or a list of scalars. -/
inductive Value
  | integer (n : Int64)
  | real (x : Double)
  | text (s : String)
  | boolean (b : Bool)
  | list (items : List Value)
deriving Inhabited

/-- Literals of reals are positional from `0.0001` up to `10 ^ 16`, and ties go up. -/
def literalLayout : DecimalLayout where
  lowest := -4
  highest := 15
  tie := .up

/-- The literal of a real; there is none for a real that is not finite. -/
def Double.literal (x : Double) : String :=
  if x.isFinite then x.text literalLayout else "NULL"

/-- Characters of a quoted text, every quote doubled. -/
def doubleQuotes : List Char → List Char
  | [] => []
  | c :: rest => if c = '\'' then '\'' :: '\'' :: doubleQuotes rest else c :: doubleQuotes rest

/-- The literal of a text. -/
def quoted (s : String) : String :=
  String.ofList ('\'' :: doubleQuotes s.toList ++ ['\''])

namespace Value

/-- The kind of a value. -/
def kind : Value → ScalarKind
  | integer _ => .integer
  | real _ => .real
  | text _ => .text
  | boolean _ => .boolean
  | list _ => .list

mutual

/-- The SQL literal of a value. -/
def toSql : Value → String
  | integer n => toString n
  | real x => x.literal
  | text s => quoted s
  | boolean b => if b then "1" else "0"
  | list items => "(" ++ ", ".intercalate (literals items) ++ ")"

/-- The literals of several values. -/
def literals : List Value → List String
  | [] => []
  | v :: vs => v.toSql :: literals vs

end

theorem literals_eq_map (vs : List Value) : literals vs = vs.map toSql := by
  induction vs with
  | nil => rfl
  | cons v vs ih => rw [literals, ih, List.map_cons]

/-- Literals joined by a comma and a blank. -/
def joinLiterals (vs : List Value) : String := ", ".intercalate (vs.map toSql)

/-- The literal of a value that may be absent. -/
def literal (v : Option Value) : String := v.elim "NULL" toSql

mutual

/-- Equality of values, reals compared as numbers: a not-a-number equals nothing, not even itself,
and the two zeros are equal. -/
def same : Value → Value → Bool
  | integer m, integer n => m == n
  | real x, real y => x.same y
  | text s, text t => s == t
  | boolean b, boolean c => b == c
  | list vs, list ws => sameAll vs ws
  | _, _ => false

/-- Equality of lists of values, element by element. -/
def sameAll : List Value → List Value → Bool
  | [], [] => true
  | v :: vs, w :: ws => v.same w && sameAll vs ws
  | _, _ => false

end

/-- Equality of values that may be absent. -/
def sameOption : Option Value → Option Value → Bool
  | none, none => true
  | some v, some w => v.same w
  | _, _ => false

end Value

end SqlStore
