/-
# Statements without their texts

Redacting a statement replaces every text value in it by the empty one, wherever a value can stand.
Two statements that differ in text values alone are redacted to the same statement.

* `Statement.redact` : the statement without its texts;
* `Statement.names` : the names of tables, columns and indexes in a statement;
* `Statement.names_redact` : redaction keeps the names.
-/
import SqlStore.Statement

namespace SqlStore

/-! ## Values -/

namespace Value

mutual

/-- The value with every text emptied. -/
def redact : Value → Value
  | integer n => integer n
  | real x => real x
  | text _ => text ""
  | boolean b => boolean b
  | list items => list (redactAll items)

/-- The values with every text emptied. -/
def redactAll : List Value → List Value
  | [] => []
  | v :: vs => v.redact :: redactAll vs

end

theorem redactAll_eq_map (vs : List Value) : redactAll vs = vs.map redact := by
  induction vs with
  | nil => rfl
  | cons v vs ih => rw [redactAll, ih, List.map_cons]

/-- Redaction keeps the kind. -/
theorem kind_redact (v : Value) : v.redact.kind = v.kind := by
  cases v <;> simp only [redact, kind]

end Value

/-! ## Conditions -/

namespace Condition

/-- The condition without its texts. -/
def redact (c : Condition) : Condition := { c with value := c.value.map Value.redact }

/-- The table, if it is told, and the column. -/
def names (c : Condition) : List String := c.table.toList ++ [c.key]

end Condition

namespace ConditionSet

/-- The set without the texts of its conditions. -/
def redact : ConditionSet → ConditionSet
  | empty => empty
  | single c => single c.redact
  | compound op left right capsuled => compound op left.redact right.redact capsuled

/-- The tables and columns of the conditions. -/
def names (set : ConditionSet) : List String := set.leaves.flatMap Condition.names

theorem names_compound (op : Connective) (left right : ConditionSet) (capsuled : Bool) :
    (compound op left right capsuled).names = left.names ++ right.names := by
  unfold names
  rw [leaves, List.flatMap_append]

theorem names_redact (set : ConditionSet) : set.redact.names = set.names := by
  induction set with
  | empty => rfl
  | single c => rfl
  | compound op left right capsuled ihLeft ihRight =>
      rw [redact, names_compound, names_compound, ihLeft, ihRight]

end ConditionSet

/-! ## Queries -/

/-- The columns of a selection that are named. -/
def Selection.names : Selection → List String
  | all => []
  | columns names => names

namespace Select

def redact (s : Select) : Select :=
  { s with filter := { s.filter with conditions := s.filter.conditions.redact } }

def names (s : Select) : List String :=
  s.table :: s.selection.names ++ s.filter.conditions.names ++ s.filter.ascending ++
    s.filter.descending

end Select

/-- The assignment without the texts of its value. -/
def Assignment.redact (a : Assignment) : Assignment := { a with value := a.value.map Value.redact }

namespace Update

def redact (u : Update) : Update :=
  { u with replace := u.replace.map Assignment.redact, conditions := u.conditions.redact }

def names (u : Update) : List String :=
  u.table :: u.replace.map Assignment.column ++ u.conditions.names

end Update

namespace Delete

def redact (d : Delete) : Delete := { d with conditions := d.conditions.redact }

def names (d : Delete) : List String := d.table :: d.conditions.names

end Delete

namespace Join

def redact (j : Join) : Join := { j with conditions := j.conditions.redact }

def names (j : Join) : List String :=
  j.base :: (j.selections.flatMap fun s => s.table :: s.selection.names) ++
    (j.joins.flatMap fun on => [on.table, on.left, on.right]) ++ j.conditions.names ++
    ((j.ascending ++ j.descending).flatMap fun c => [c.table, c.column])

end Join

namespace Query

/-- The query without its texts. -/
def redact : Query → Query
  | select s => select s.redact
  | update u => update u.redact
  | delete d => delete d.redact
  | join j => join j.redact

/-- The tables and columns of the query. -/
def names : Query → List String
  | select s => s.names
  | update u => u.names
  | delete d => d.names
  | join j => j.names

theorem names_redact (q : Query) : q.redact.names = q.names := by
  cases q with
  | select s => simp [redact, names, Select.redact, Select.names, ConditionSet.names_redact]
  | update u =>
      have hcolumns : (u.replace.map Assignment.redact).map Assignment.column
          = u.replace.map Assignment.column := by
        rw [List.map_map]
        rfl
      simp [redact, names, Update.redact, Update.names, ConditionSet.names_redact, hcolumns]
  | delete d => simp [redact, names, Delete.redact, Delete.names, ConditionSet.names_redact]
  | join j => simp [redact, names, Join.redact, Join.names, ConditionSet.names_redact]

end Query

/-! ## Declarations and statements -/

/-- The attribute without the texts of a default. -/
def ColumnAttribute.redact : ColumnAttribute → ColumnAttribute
  | default value => default value.redact
  | a => a

/-- The declaration without the texts of its defaults. -/
def ColumnDecl.redact (d : ColumnDecl) : ColumnDecl :=
  { d with attributes := d.attributes.map ColumnAttribute.redact }

namespace Statement

/-- The statement without its texts. -/
def redact : Statement → Statement
  | query q => query q.redact
  | createTable name columns => createTable name (columns.map ColumnDecl.redact)
  | addColumn table column => addColumn table column.redact
  | insert table columns values policy =>
      insert table columns (values.map (·.map Value.redact)) policy
  | s => s

/-- The tables, columns and indexes of the statement. -/
def names : Statement → List String
  | query q => q.names
  | createTable name columns => name :: columns.map ColumnDecl.name
  | createIndex name table columns => name :: table :: columns
  | dropTable name => [name]
  | renameTable old new => [old, new]
  | addColumn table column => [table, column.name]
  | copyRows source target targetColumns sourceColumns =>
      source :: target :: targetColumns ++ sourceColumns
  | insert table columns _ _ => table :: columns
  | begin | commit | rollback | setUserVersion _ | unreadable _ => []

/-- Redaction keeps the names. -/
theorem names_redact (s : Statement) : s.redact.names = s.names := by
  cases s with
  | query q => exact q.names_redact
  | createTable name columns =>
      rw [redact, names, names, List.map_map]
      rfl
  | _ => rfl

end Statement

end SqlStore
