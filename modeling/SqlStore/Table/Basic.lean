/-
# Table descriptors

A `Table` ties a name to a list of columns and to the codec of an entity.  The canonical order of
the columns is the order of inserts, of `CREATE TABLE` and of positional decoding.
-/
import SqlStore.Cursor
import SqlStore.Statement

namespace SqlStore

/-- A table whose columns are of type `Column` and whose rows are of type `Entity`. -/
structure Table (Column Entity : Type) where
  name : String
  /-- Every column, in canonical order. -/
  columns : List Column
  columnName : Column → String
  declaration : Column → ColumnDecl
  /-- The value stored in a column for an entity. -/
  scalar : Entity → Column → Option Value
  /-- Reads an entity from a row. -/
  decode : RowReader Entity
  /-- The script that takes the table from a version to the next, if there is one. -/
  migration : Int32 → Option Script

namespace Table

variable {Column Entity : Type} (t : Table Column Entity)

/-- The values of an entity in canonical order. -/
def serialize (e : Entity) : Row := t.columns.map (t.scalar e)

/-- The names of the columns in canonical order. -/
def columnNames : List String := t.columns.map t.columnName

/-- The column of a name. -/
def column? (name : String) : Option Column := t.columns.find? fun c => t.columnName c == name

/-- Reads a column of the table by its name. -/
def get? (α : Type) [Readable α] (c : Column) : RowReader (Option α) :=
  RowReader.get? α (t.columnName c)

/-! ## Statements -/

/-- Creates a table of this layout under another name. -/
def createAs (name : String) : Statement := .createTable name (t.columns.map t.declaration)

/-- Creates the table unless it exists. -/
def create : Statement := t.createAs t.name

/-- Inserts an entity. -/
def insert (e : Entity) (policy : ConflictPolicy) : Statement :=
  .insert t.name t.columnNames (t.serialize e) policy

/-- Drops the table if it exists. -/
def drop : Statement := .dropTable t.name

/-- Gives the name of this table to another one. -/
def renameFrom (old : String) : Statement := .renameTable old t.name

/-- Adds one of the columns to the table. -/
def addColumn (c : Column) : Statement := .addColumn t.name (t.declaration c)

/-- Rebuilds the table through another one, mapping old columns to new ones. -/
def modifyColumns (temp : Option String) (newColumns oldColumns : List String) : Script :=
  copyAndRename t.name (temp.getD ("temp_" ++ t.name)) newColumns oldColumns

end Table

/-! ## Queries over a table -/

variable {Column Entity : Type}

/-- A select over a table. -/
structure SelectQuery (t : Table Column Entity) where
  selection : Selection
  filters : Filter

namespace SelectQuery

variable {t : Table Column Entity}

/-- The statement of the query. -/
def statement (q : SelectQuery t) : Select :=
  { table := t.name, selection := q.selection, filter := q.filters }

/-- Every row, with all columns. -/
def all (t : Table Column Entity) : SelectQuery t := ⟨.all, .none⟩

/-- Every row, with some of the columns. -/
def some (t : Table Column Entity) (columns : List Column) : SelectQuery t :=
  ⟨.columns (columns.map t.columnName), .none⟩

/-- Adds conditions. -/
def filter (conditions : ConditionSet) (q : SelectQuery t) : SelectQuery t :=
  { q with filters := q.filters.filter conditions }

/-- Adds a column to order by. -/
def orderBy (column : Column) (ascending : Bool) (q : SelectQuery t) : SelectQuery t :=
  { q with filters := q.filters.orderBy (t.columnName column) ascending }

/-- Sets the limit. -/
def limitTo (count : UInt64) (q : SelectQuery t) : SelectQuery t :=
  { q with filters := q.filters.limitTo count }

end SelectQuery

/-- An update of a table. -/
structure UpdateQuery (t : Table Column Entity) where
  replace : List Assignment
  conditions : ConditionSet

namespace UpdateQuery

variable {t : Table Column Entity}

/-- The statement of the query. -/
def statement (q : UpdateQuery t) : Update :=
  { table := t.name, replace := q.replace, conditions := q.conditions }

/-- Assigns in every row what the equalities among the conditions say. -/
def new (t : Table Column Entity) (replace : List Condition) : UpdateQuery t :=
  ⟨replace.filterMap Assignment.ofCondition?, .empty⟩

/-- Adds conditions. -/
def filter (conditions : ConditionSet) (q : UpdateQuery t) : UpdateQuery t :=
  { q with conditions := q.conditions.and conditions }

end UpdateQuery

/-- A delete from a table. -/
structure DeleteQuery (t : Table Column Entity) where
  conditions : ConditionSet

namespace DeleteQuery

variable {t : Table Column Entity}

/-- The statement of the query. -/
def statement (q : DeleteQuery t) : Delete := { table := t.name, conditions := q.conditions }

/-- Deletes every row. -/
def all (t : Table Column Entity) : DeleteQuery t := ⟨.empty⟩

/-- Adds conditions. -/
def filter (conditions : ConditionSet) (q : DeleteQuery t) : DeleteQuery t :=
  { q with conditions := q.conditions.and conditions }

end DeleteQuery

/-- A join rooted at a table. -/
structure JoinQuery (t : Table Column Entity) where
  statement : Join

namespace JoinQuery

variable {t : Table Column Entity}

/-- The join of the base table alone. -/
def ofSelect (q : SelectQuery t) : JoinQuery t := ⟨.ofSelect q.statement⟩

/-- Joins another table on a column of each. -/
def join {Column' Entity' : Type} {t' : Table Column' Entity'} (q : JoinQuery t) (kind : JoinKind)
    (other : SelectQuery t') (left : Column) (right : Column') (intersect : Bool) : JoinQuery t :=
  ⟨q.statement.join kind other.statement (t.columnName left) (t'.columnName right) intersect⟩

/-- Sets the limit in place of the merged one. -/
def limitTo (count : UInt64) (q : JoinQuery t) : JoinQuery t :=
  ⟨{ q.statement with limit := some count }⟩

end JoinQuery

end SqlStore
