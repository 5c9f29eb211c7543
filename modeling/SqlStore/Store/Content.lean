/-
# What a database holds

Tables with their rows, the names of indexes and the version of the schema.  Every row has a number
of its own, and rows are kept in the order of their numbers; an `INTEGER PRIMARY KEY` column is that
number.

This is what the statements of `Statement` can make.  None of them makes a view, a trigger, a
foreign key, a check or a conflict clause of a column, so that a content has no place for these, and
a change of rows does nothing but what it says.

* `StoredTable.place` : puts a row among the others by its number;
* `Content.table` : the table of a name;
* `Content.withTable` : the same content with one table changed.
-/
import SqlStore.Store.Test

namespace SqlStore

/-- A column of a stored table. -/
structure StoredColumn where
  name : String
  affinity : Affinity
  notNull : Bool
  /-- What the column holds where an insert leaves it out. -/
  default : Cell
deriving DecidableEq, Inhabited

/-- A row and its number. -/
structure StoredRow where
  id : Int64
  cells : List Cell
deriving DecidableEq, Inhabited

/-- A table and its rows. -/
structure StoredTable where
  name : String
  columns : List StoredColumn
  /-- The position of the column that is the number of the row. -/
  idColumn : Option Nat
  /-- Whether numbers are never given twice. -/
  counting : Bool
  /-- Positions of columns that no two rows agree on, unless one of them is `NULL`. -/
  uniqueKeys : List (List Nat)
  /-- The rows in the order of their numbers. -/
  rows : List StoredRow
  /-- The largest number ever given, in a table that counts. -/
  lastId : Int64
deriving DecidableEq, Inhabited

namespace StoredTable

/-- The columns as a statement over this table alone can name them. -/
def scope (t : StoredTable) : Scope := t.columns.map fun c => ⟨t.name, c.name, c.affinity⟩

/-- Puts a row among others by its number. -/
def place (row : StoredRow) : List StoredRow → List StoredRow
  | [] => [row]
  | r :: rest => if row.id < r.id then row :: r :: rest else r :: place row rest

/-- The position of a column that a statement names bare. -/
def position (t : StoredTable) (name : String) : Except Fault Nat := t.scope.position none name

end StoredTable

/-- The name of an index and of its table. -/
structure StoredIndex where
  name : String
  table : String
deriving DecidableEq, Inhabited

/-- Everything that a database holds. -/
structure Content where
  tables : List StoredTable
  indexes : List StoredIndex
  userVersion : Int32
deriving DecidableEq, Inhabited

namespace Content

/-- A new database. -/
def empty : Content := { tables := [], indexes := [], userVersion := 0 }

/-- The table of a name, if there is one. -/
def table? (c : Content) (name : String) : Option StoredTable :=
  c.tables.find? fun t => sameName t.name name

/-- The table of a name. -/
def table (c : Content) (name : String) : Except Fault StoredTable :=
  if isIdentifier name then (c.table? name).elim (.error (.noSuchTable name)) .ok
  else .error .malformed

/-- Whether an index has the name. -/
def hasIndex (c : Content) (name : String) : Bool := c.indexes.any fun i => sameName i.name name

/-- The same content with a new state of one of its tables. -/
def withTable (c : Content) (t : StoredTable) : Content :=
  { c with tables := c.tables.map fun old => if sameName old.name t.name then t else old }

end Content

end SqlStore
