/-
# Tests on rows

A condition set says a predicate over the columns in scope.  `Predicate.resolve` finds the column
that every condition names and pulls the operand towards that column, which leaves a `Test`; a test
of a row is true, false or unknown, and a `WHERE` clause keeps the rows where it is true.

* `Scope.position` : the one column of a name;
* `ConditionSet.test` : the test that a condition set stands for;
* `Test.eval` : three-valued evaluation.
-/
import SqlStore.Condition.Predicate
import SqlStore.Store.Affinity
import SqlStore.Store.Fault
import SqlStore.Store.Identifier
import SqlStore.Store.Like

namespace SqlStore

/-! ## Columns in scope -/

/-- A column that a statement can name. -/
structure ScopeColumn where
  table : String
  name : String
  affinity : Affinity
deriving DecidableEq, Inhabited

/-- The columns that a statement can name, in the order of the cells of a row. -/
abbrev Scope := List ScopeColumn

/-- Whether a name, after its table if that is told, names the column. -/
def ScopeColumn.isNamed (c : ScopeColumn) (table : Option String) (name : String) : Bool :=
  sameName c.name name && table.all (sameName c.table)

/-- The position of the one column of a name. -/
def Scope.position (scope : Scope) (table : Option String) (name : String) : Except Fault Nat :=
  if !isIdentifier name || !table.all isIdentifier then .error .malformed
  else
    match (List.range scope.length).filter fun i => (scope[i]?).any (·.isNamed table name) with
    | [] => .error (.noSuchColumn name)
    | [i] => .ok i
    | _ => .error (.ambiguousColumn name)

/-- The affinity of the column at a position. -/
def Scope.affinity (scope : Scope) (i : Nat) : Affinity := (scope[i]?).elim .integer (·.affinity)

/-- The cell at a position of a row. -/
def cellAt (row : List Cell) (i : Nat) : Cell := (row[i]?).getD .null

/-! ## Tests -/

/-- A predicate over the positions of a row. -/
inductive Test
  | constant (holds : Bool)
  | isNull (column : Nat) (negated : Bool)
  | compare (op : Operator) (column : Nat) (operand : Cell)
  | member (column : Nat) (items : List Cell) (negated : Bool)
  | like (column : Nat) (pattern : Cell)
  | compound (op : Connective) (left right : Test)
deriving Inhabited

/-- The orders of the two sides under which a comparison holds. -/
def Operator.accepts : Operator → Ordering → Bool
  | .equal, o => o == .eq
  | .notEqual, o => o != .eq
  | .greaterThan orEqual, o => o == .gt || (orEqual && o == .eq)
  | .lessThan orEqual, o => o == .lt || (orEqual && o == .eq)
  | _, _ => false

/-- Conjunction and disjunction of truth values, of which an absent one is unknown. -/
def Connective.apply : Connective → Option Bool → Option Bool → Option Bool
  | .and, some a, some b => some (a && b)
  | .and, a, b => if a == some false || b == some false then some false else none
  | .or, some a, some b => some (a || b)
  | .or, a, b => if a == some true || b == some true then some true else none

/-- Membership in a list that is not empty: unknown for `NULL`, and where the list holds `NULL` and
no equal item. -/
def Cell.among (c : Cell) (items : List Cell) : Option Bool :=
  if c.isNull then none
  else if items.any c.equals then some true
  else if items.any Cell.isNull then none
  else some false

/-- Whether the text of a cell matches the text of a pattern. -/
def Cell.isLike (c pattern : Cell) : Option Bool :=
  match c.text?, pattern.text? with
  | some s, some p => some (SqlStore.like p.toList s.toList)
  | _, _ => none

namespace Test

/-- The truth value of a test of a row. -/
def eval (row : List Cell) : Test → Option Bool
  | constant holds => some holds
  | isNull column negated => some ((cellAt row column).isNull != negated)
  | compare op column operand => ((cellAt row column).order operand).map op.accepts
  | member column items negated => ((cellAt row column).among items).map (· != negated)
  | like column pattern => (cellAt row column).isLike pattern
  | compound op left right => op.apply (left.eval row) (right.eval row)

/-- Whether a row passes the test. -/
def holds (t : Test) (row : List Cell) : Bool := t.eval row == some true

end Test

/-! ## The test of a condition set -/

/-- The cells of the elements of a list operand. -/
def listCells? : Option Value → Option (List Cell)
  | some (.list items) => items.mapM Cell.ofLiteral?
  | _ => none

/-- What a value has to be for the statement to be one. -/
def orMalformed {α : Type} (a : Option α) : Except Fault α := a.elim (.error .malformed) .ok

/-- The test of one condition. -/
def Condition.resolve (scope : Scope) (c : Condition) : Except SqlStore.Fault Test := do
  let membership (negated : Bool) : Except SqlStore.Fault Test := do
    let items ← orMalformed (listCells? c.value)
    if items.isEmpty then return .constant negated
    let i ← scope.position c.table c.key
    return .member i (items.map (scope.affinity i).operand) negated
  match c.operation, c.value with
  | .equal, none | .isNull, _ => return .isNull (← scope.position c.table c.key) false
  | .notEqual, none => return .isNull (← scope.position c.table c.key) true
  | .inList, _ => membership false
  | .notInList, _ => membership true
  | .like, operand =>
      return .like (← scope.position c.table c.key) (← orMalformed (Cell.ofOperand? operand))
  | op, operand =>
      let i ← scope.position c.table c.key
      return .compare op i ((scope.affinity i).operand (← orMalformed (Cell.ofOperand? operand)))

/-- The test of a predicate. -/
def Predicate.resolve (scope : Scope) : Predicate Condition → Except Fault Test
  | leaf c => c.resolve scope
  | compound op left right => do
      let l ← left.resolve scope
      let r ← right.resolve scope
      return .compound op l r

/-- The test of a condition set; every row passes that of the empty set. -/
def ConditionSet.test (scope : Scope) (set : ConditionSet) : Except Fault Test :=
  if set.isEmpty then .ok (.constant true)
  else do (← orMalformed (Predicate.ofLexemes? set.lexemes)).resolve scope

end SqlStore
