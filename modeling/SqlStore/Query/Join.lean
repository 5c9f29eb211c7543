/-
# Joins

A join starts from the select of its base table and takes in further selects one at a time.  Each
side's conditions and ordering columns are qualified with that side's table; conditions are then
combined as condition sets are, so the grouping inside each side survives.
-/
import SqlStore.Query.Select

namespace SqlStore

/-- How a table is joined to the base table. -/
inductive JoinKind
  | inner
  | leftOuter
  | cross
deriving DecidableEq, Inhabited

/-- The keyword of a kind of join. -/
def JoinKind.keyword : JoinKind → String
  | .inner => "INNER"
  | .leftOuter => "LEFT OUTER"
  | .cross => "CROSS"

/-- The columns wanted from one table of a join. -/
structure JoinSelection where
  table : String
  selection : Selection
deriving DecidableEq, Inhabited

/-- `kind JOIN table ON base.left = table.right` -/
structure JoinOn where
  kind : JoinKind
  table : String
  /-- The column of the base table. -/
  left : String
  /-- The column of the joined table. -/
  right : String
deriving DecidableEq, Inhabited

/-- The text of one joined table. -/
def JoinOn.toSql (base : String) (j : JoinOn) : String :=
  j.kind.keyword ++ " JOIN " ++ j.table ++ " ON " ++ base ++ "." ++ j.left ++ " = " ++
    j.table ++ "." ++ j.right

/-- A column of a table, as an ordering names it. -/
structure ColumnInTable where
  table : String
  column : String
deriving DecidableEq, Inhabited

/-- The column after its table. -/
def ColumnInTable.toSql (c : ColumnInTable) : String := c.table ++ "." ++ c.column

/-- The smaller of two limits, an absent one being no limit. -/
def minLimit : Option UInt64 → Option UInt64 → Option UInt64
  | some a, some b => some (min a b)
  | a, none => a
  | none, b => b

/-- A select over several tables. -/
structure Join where
  base : String
  selections : List JoinSelection
  joins : List JoinOn
  conditions : ConditionSet
  ascending : List ColumnInTable
  descending : List ColumnInTable
  limit : Option UInt64
deriving Inhabited

namespace Join

/-- The join of one table. -/
def ofSelect (base : Select) : Join :=
  { base := base.table
    selections := [⟨base.table, base.selection⟩]
    joins := []
    conditions := base.filter.conditions.qualified base.table
    ascending := base.filter.ascending.map (⟨base.table, ·⟩)
    descending := base.filter.descending.map (⟨base.table, ·⟩)
    limit := base.filter.limit }

/-- Joins one more table.  Rows have to meet the conditions of both sides if `intersect`, else of
one of them. -/
def join (j : Join) (kind : JoinKind) (other : Select) (left right : String)
    (intersect : Bool) : Join :=
  { base := j.base
    selections := j.selections ++ [⟨other.table, other.selection⟩]
    joins := j.joins ++ [⟨kind, other.table, left, right⟩]
    conditions := .combine (if intersect then .and else .or) j.conditions
      (other.filter.conditions.qualified other.table)
    ascending := j.ascending ++ other.filter.ascending.map (⟨other.table, ·⟩)
    descending := j.descending ++ other.filter.descending.map (⟨other.table, ·⟩)
    limit := minLimit j.limit other.filter.limit }

/-- The text of the statement. -/
def toSql (j : Join) : Except QueryError String := do
  let condition ← whereClause j.conditions
  let columns := j.selections.flatMap fun s => s.selection.qualified s.table
  return "SELECT " ++ ", ".intercalate columns ++ " FROM " ++ j.base ++
    String.join (j.joins.map fun on => " " ++ on.toSql j.base) ++ condition ++
    orderClause (j.ascending.map ColumnInTable.toSql) (j.descending.map ColumnInTable.toSql) ++
    limitClause j.limit ++ ";"

end Join

end SqlStore
