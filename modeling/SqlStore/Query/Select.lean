/-
# Single-table selects

A select names a table, the columns it wants and a `Filter`: the conditions, the two orderings and
the limit.  Its text is one statement, the clauses in the order `WHERE`, `ORDER BY`, `LIMIT`.
-/
import SqlStore.Condition.Set

namespace SqlStore

/-- The columns a select asks for. -/
inductive Selection
  | all
  | columns (names : List String)
deriving DecidableEq, Inhabited

namespace Selection

/-- The column list of a select over one table. -/
def toSql : Selection → String
  | all => "*"
  | columns names => ", ".intercalate names

/-- The columns, each after its table. -/
def qualified (table : String) : Selection → List String
  | all => [table ++ ".*"]
  | columns names => names.map fun name => table ++ "." ++ name

end Selection

/-- Which rows a select yields, in which order, and how many of them. -/
structure Filter where
  conditions : ConditionSet
  /-- Columns to order by ascending; they come before the descending ones. -/
  ascending : List String
  descending : List String
  limit : Option UInt64
deriving Inhabited

namespace Filter

/-- No condition, no order and no limit. -/
def none : Filter := { conditions := .empty, ascending := [], descending := [], limit := .none }

/-- Adds conditions that have to hold as well. -/
def filter (conditions : ConditionSet) (f : Filter) : Filter :=
  { f with conditions := f.conditions.and conditions }

/-- Adds a column to order by. -/
def orderBy (column : String) (ascending : Bool) (f : Filter) : Filter :=
  if ascending then { f with ascending := f.ascending ++ [column] }
  else { f with descending := f.descending ++ [column] }

/-- Sets the limit, in place of an earlier one. -/
def limitTo (count : UInt64) (f : Filter) : Filter := { f with limit := some count }

end Filter

/-! ## Clauses -/

/-- The `WHERE` clause, absent when the conditions have no text. -/
def whereClause (conditions : ConditionSet) : Except QueryError String :=
  conditions.toSql.map fun text => if text.isEmpty then "" else " WHERE " ++ text

/-- The `ORDER BY` clause, ascending columns first. -/
def orderClause (ascending descending : List String) : String :=
  match ascending.map (· ++ " ASC") ++ descending.map (· ++ " DESC") with
  | [] => ""
  | terms => " ORDER BY " ++ ", ".intercalate terms

/-- The `LIMIT` clause. -/
def limitClause (limit : Option UInt64) : String :=
  limit.elim "" fun count => " LIMIT " ++ toString count

/-- `SELECT columns FROM table [WHERE ..] [ORDER BY ..] [LIMIT n];` -/
structure Select where
  table : String
  selection : Selection
  filter : Filter
deriving Inhabited

namespace Select

/-- A select of every row of a table. -/
def new (table : String) (selection : Selection) : Select :=
  { table, selection, filter := .none }

/-- Changes the filter. -/
def refine (s : Select) (change : Filter → Filter) : Select :=
  { s with filter := change s.filter }

/-- The text of the statement. -/
def toSql (s : Select) : Except QueryError String := do
  let condition ← whereClause s.filter.conditions
  return "SELECT " ++ s.selection.toSql ++ " FROM " ++ s.table ++ condition ++
    orderClause s.filter.ascending s.filter.descending ++ limitClause s.filter.limit ++ ";"

end Select

end SqlStore
