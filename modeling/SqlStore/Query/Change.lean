/-
# Updates and deletes

An update takes its assignments from conditions: those with the plain equality assign, the others
are dropped.  An update with no assignment left does not compile.
-/
import SqlStore.Query.Select

namespace SqlStore

/-- `column = value` in the `SET` clause of an update. -/
structure Assignment where
  column : String
  value : Option Value
deriving Inhabited

namespace Assignment

/-- The text of an assignment. -/
def toSql (a : Assignment) : String := a.column ++ " = " ++ Value.literal a.value

/-- The assignment that a condition stands for, if its operator assigns. -/
def ofCondition? (c : Condition) : Option Assignment :=
  if c.operation.isEqual then some { column := c.key, value := c.value } else none

end Assignment

/-- `UPDATE table SET column = value, .. [WHERE ..];` -/
structure Update where
  table : String
  replace : List Assignment
  conditions : ConditionSet
deriving Inhabited

namespace Update

/-- An update of every row, its assignments the equalities among the conditions. -/
def new (table : String) (replace : List Condition) : Update :=
  { table, replace := replace.filterMap Assignment.ofCondition?, conditions := .empty }

/-- Adds conditions that have to hold as well. -/
def filter (conditions : ConditionSet) (u : Update) : Update :=
  { u with conditions := u.conditions.and conditions }

/-- The text of the statement; a missing assignment is reported before a bad condition. -/
def toSql (u : Update) : Except QueryError String :=
  if u.replace.isEmpty then .error (.noAssignments u.table)
  else do
    let condition ← whereClause u.conditions
    return "UPDATE " ++ u.table ++ " SET " ++ ", ".intercalate (u.replace.map Assignment.toSql) ++
      condition ++ ";"

end Update

/-- `DELETE FROM table [WHERE ..];` -/
structure Delete where
  table : String
  conditions : ConditionSet
deriving Inhabited

namespace Delete

/-- A delete of every row. -/
def new (table : String) : Delete := { table, conditions := .empty }

/-- Adds conditions that have to hold as well. -/
def filter (conditions : ConditionSet) (d : Delete) : Delete :=
  { d with conditions := d.conditions.and conditions }

/-- The text of the statement. -/
def toSql (d : Delete) : Except QueryError String := do
  let condition ← whereClause d.conditions
  return "DELETE FROM " ++ d.table ++ condition ++ ";"

end Delete

end SqlStore
