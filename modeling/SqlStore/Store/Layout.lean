/-
# Changes of the schema

A table is laid out from column declarations: a single `INTEGER PRIMARY KEY` is the number of the
row, any other primary key and every `UNIQUE` column is a key that rows must not share.  Creating
what exists and dropping what does not changes nothing.

* `StoredTable.ofDeclarations` : an empty table of a layout;
* `Content.create`, `drop`, `rename`, `addColumn`, `createIndex` : the statements.
-/
import SqlStore.Store.Change

namespace SqlStore

namespace ColumnDecl

/-- Whether the column cannot hold `NULL`. -/
def isNotNull (d : ColumnDecl) : Bool :=
  d.attributes.any fun
    | .notNull => true
    | _ => false

/-- Whether no two rows can share a value of the column. -/
def isUnique (d : ColumnDecl) : Bool :=
  d.attributes.any fun
    | .unique => true
    | _ => false

/-- Whether the column is declared as a key that counts. -/
def isCounting (d : ColumnDecl) : Bool :=
  d.attributes.any fun
    | .primaryKey autoIncrement => autoIncrement
    | _ => false

/-- The last default of the column; without one it is `NULL`. -/
def defaultValue? (d : ColumnDecl) : Option Value :=
  (d.attributes.filterMap fun
    | .default v => some v
    | _ => none).getLast?

/-- The stored column of a declaration, if its text is one. -/
def stored (d : ColumnDecl) : Except Fault StoredColumn := do
  if !isIdentifier d.name then throw .malformed
  discard (orMalformed (d.attributes.mapM fun
    | .default v => Cell.ofLiteral? v
    | _ => some .null))
  return { name := d.name, affinity := d.kind.affinity, notNull := d.isNotNull
           default := (← orMalformed (Cell.ofOperand? d.defaultValue?)) }

end ColumnDecl

/-- The first name that comes twice. -/
def firstDuplicate? : List String → Option String
  | [] => none
  | name :: rest => if rest.any (sameName name) then some name else firstDuplicate? rest

/-- The position of the one column that is the number of the row. -/
def idColumn? (columns : List ColumnDecl) : Option Nat :=
  match (List.range columns.length).filter fun i => (columns[i]?).any ColumnDecl.isPrimaryKey with
  | [i] => if (columns[i]?).any (·.kind == .integer) then some i else none
  | _ => none

/-- The keys that rows must not share: every `UNIQUE` column, and the primary key unless it is the
number of the row. -/
def uniqueKeys (columns : List ColumnDecl) : List (List Nat) :=
  let those (p : ColumnDecl → Bool) : List Nat :=
    (List.range columns.length).filter fun i => (columns[i]?).any p
  let primary := those ColumnDecl.isPrimaryKey
  (those ColumnDecl.isUnique).map (fun i => [i]) ++
    (if primary.isEmpty || (idColumn? columns).isSome then [] else [primary])

/-- Whether the primary keys of a layout, which are written with their columns unless there are
several, leave the table with one key that can count if it is declared to. -/
def keysFit (columns : List ColumnDecl) : Bool :=
  let primary := columns.filter ColumnDecl.isPrimaryKey
  1 < primary.length || primary.all fun d =>
    (d.attributes.filter ColumnAttribute.isPrimaryKey).length ≤ 1 &&
      (!d.isCounting || d.kind == .integer)

/-- An empty table of a layout. -/
def StoredTable.ofDeclarations (name : String) (columns : List ColumnDecl) :
    Except Fault StoredTable := do
  let stored ← columns.mapM ColumnDecl.stored
  match firstDuplicate? (columns.map (·.name)) with
  | some twice => throw (.duplicateColumn twice)
  | none =>
      if !keysFit columns then throw (.badPrimaryKey name)
      return { name, columns := stored
               idColumn := idColumn? columns
               counting := (idColumn? columns).isSome && columns.any ColumnDecl.isCounting
               uniqueKeys := SqlStore.uniqueKeys columns
               rows := [], lastId := 0 }

namespace Content

/-- Refuses text that is no name. -/
def requireName (name : String) : Except Fault Unit :=
  if isIdentifier name then .ok () else .error .malformed

/-- Creates a table unless it exists. -/
def create (c : Content) (name : String) (columns : List ColumnDecl) : Except Fault Content := do
  requireName name
  if columns.isEmpty then throw .malformed
  discard (columns.mapM ColumnDecl.stored)
  if isSystemName name then throw (.nameTaken name)
  if (c.table? name).isSome then return c
  if c.hasIndex name then throw (.nameTaken name)
  return { c with tables := c.tables ++ [← StoredTable.ofDeclarations name columns] }

/-- Creates an index on columns of a table unless it exists. -/
def createIndex (c : Content) (name table : String) (columns : List String) :
    Except Fault Content := do
  requireName name
  if columns.isEmpty then throw .malformed
  columns.forM requireName
  let t ← c.table table
  if isSystemName name || (c.table? name).isSome then throw (.nameTaken name)
  if c.hasIndex name then return c
  discard (columns.mapM t.position)
  return { c with indexes := c.indexes ++ [{ name, table := t.name }] }

/-- Drops a table and its indexes if it exists. -/
def drop (c : Content) (name : String) : Except Fault Content := do
  requireName name
  return { c with
    tables := c.tables.filter fun t => !sameName t.name name
    indexes := c.indexes.filter fun i => !sameName i.table name }

/-- Gives a table another name, which nothing may have. -/
def rename (c : Content) (old new : String) : Except Fault Content := do
  requireName new
  let t ← c.table old
  if isSystemName new || (c.table? new).isSome || c.hasIndex new then throw (.nameTaken new)
  return { c with
    tables := c.tables.map fun u => if sameName u.name t.name then { u with name := new } else u
    indexes := c.indexes.map fun i =>
      if sameName i.table t.name then { i with table := new } else i }

/-- Adds a column to a table; the rows already there hold its default. -/
def addColumn (c : Content) (table : String) (column : ColumnDecl) : Except Fault Content := do
  let stored ← column.stored
  let t ← c.table table
  if column.isPrimaryKey || column.isUnique then throw (.badAddedColumn column.name)
  if t.columns.any fun old => sameName old.name column.name then
    throw (.duplicateColumn column.name)
  let filled := stored.affinity.store stored.default
  if stored.notNull && filled.isNull && !t.rows.isEmpty then throw (.badAddedColumn column.name)
  return c.withTable { t with
    columns := t.columns ++ [stored]
    rows := t.rows.map fun r => { r with cells := r.cells ++ [filled] } }

end Content

end SqlStore
