/-
# Conditions

A condition is one predicate over one column: `[table.]key operator [operand]`.  An absent operand
of an equality asks for `NULL`; the operand of `IN` and `NOT IN` has to be a list of one kind, and
an empty list makes the condition a constant.
-/
import SqlStore.Error

namespace SqlStore

/-- The comparison of a condition. -/
inductive Operator
  | equal
  | notEqual
  | greaterThan (orEqual : Bool)
  | lessThan (orEqual : Bool)
  | inList
  | notInList
  | isNull
  | like
deriving DecidableEq, Inhabited

/-- Whether the operator is the plain equality, the only one that assigns in an update. -/
def Operator.isEqual (op : Operator) : Bool := op == .equal

/-- A predicate over one column. -/
structure Condition where
  /-- The table that the column belongs to, where it has to be told. -/
  table : Option String
  key : String
  operation : Operator
  value : Option Value
deriving Inhabited

namespace Condition

/-- A condition on an unqualified column. -/
def on (key : String) (operation : Operator) (value : Option Value) : Condition :=
  { table := none, key, operation, value }

/-- The same condition on the column of the given table. -/
def qualified (table : String) (c : Condition) : Condition := { c with table := some table }

/-- The column, after its table if that is told. -/
def column (c : Condition) : String :=
  match c.table with
  | some table => table ++ "." ++ c.key
  | none => c.key

end Condition

/-- The elements of a list operand, which have to be of one kind. -/
def listOperand : Option Value → Except QueryError (List Value)
  | some (.list []) => .ok []
  | some (.list (first :: rest)) =>
      match rest.find? (fun v => v.kind != first.kind) with
      | some other => .error (.mixedList first.kind other.kind)
      | none => .ok (first :: rest)
  | operand => .error (.operandNotList (operand.map Value.kind))

/-- The text of a membership test; nothing is in the empty list. -/
def membership (column keyword constant : String) : List Value → String
  | [] => constant
  | items => column ++ " " ++ keyword ++ " (" ++ Value.joinLiterals items ++ ")"

/-- The SQL text of a condition. -/
def Condition.toSql (c : Condition) : Except QueryError String :=
  let comparison (symbol : String) : String :=
    c.column ++ " " ++ symbol ++ " " ++ Value.literal c.value
  match c.operation, c.value with
  | .equal, none => .ok (c.column ++ " IS NULL")
  | .notEqual, none => .ok (c.column ++ " IS NOT NULL")
  | .equal, some _ => .ok (comparison "=")
  | .notEqual, some _ => .ok (comparison "!=")
  | .greaterThan orEqual, _ => .ok (comparison (if orEqual then ">=" else ">"))
  | .lessThan orEqual, _ => .ok (comparison (if orEqual then "<=" else "<"))
  | .inList, operand => (listOperand operand).map (membership c.column "IN" "0 = 1")
  | .notInList, operand => (listOperand operand).map (membership c.column "NOT IN" "1 = 1")
  | .isNull, _ => .ok (c.column ++ " IS NULL")
  | .like, _ => .ok (comparison "LIKE")

/-- Equality of conditions, reals compared as numbers. -/
def Condition.same (a b : Condition) : Bool :=
  a.table == b.table && a.key == b.key && a.operation == b.operation &&
    Value.sameOption a.value b.value

end SqlStore
