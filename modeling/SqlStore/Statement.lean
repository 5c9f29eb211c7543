/-
# Statements

A statement is anything that a database can be given: a query, a change of the schema, an insert,
or a transaction or version command.  A script is a list of statements, one on a line.
-/
import SqlStore.Query.Change
import SqlStore.Query.Join
import SqlStore.Schema.Column

namespace SqlStore

/-- A statement that reads or changes rows. -/
inductive Query
  | select (s : Select)
  | update (u : Update)
  | delete (d : Delete)
  | join (j : Join)
deriving Inhabited

/-- The text of a query. -/
def Query.toSql : Query → Except QueryError String
  | select s => s.toSql
  | update u => u.toSql
  | delete d => d.toSql
  | join j => j.toSql

/-- What an insert does with a row that violates a constraint. -/
inductive ConflictPolicy
  | replace
  | ignore
deriving DecidableEq, Inhabited

/-- The keyword of a conflict policy. -/
def ConflictPolicy.keyword : ConflictPolicy → String
  | .replace => "REPLACE"
  | .ignore => "IGNORE"

/-- One statement. -/
inductive Statement
  | query (q : Query)
  | createTable (name : String) (columns : List ColumnDecl)
  | createIndex (name table : String) (columns : List String)
  | dropTable (name : String)
  | renameTable (old new : String)
  | addColumn (table : String) (column : ColumnDecl)
  /-- Copies columns of every row of one table into another table. -/
  | copyRows (source target : String) (targetColumns sourceColumns : List String)
  | insert (table : String) (columns : List String) (values : List (Option Value))
      (policy : ConflictPolicy)
  | begin
  | commit
  | rollback
  | setUserVersion (version : Int32)
  /-- Text that is no statement. -/
  | unreadable (text : String)
deriving Inhabited

/-- The parts of a `CREATE TABLE` body: the columns in order and, when several of them are primary
keys, one constraint that lists those. -/
def layoutParts (columns : List ColumnDecl) : List String :=
  let keys := (columns.filter ColumnDecl.isPrimaryKey).map ColumnDecl.name
  let composite := 1 < keys.length
  columns.map (·.toSql !composite) ++
    (if composite then ["PRIMARY KEY (" ++ ", ".intercalate keys ++ ")"] else [])

namespace Statement

/-- The text of a statement; only a query can fail to compile. -/
def toSql : Statement → Except QueryError String
  | query q => q.toSql
  | createTable name columns =>
      .ok ("CREATE TABLE IF NOT EXISTS " ++ name ++ " (" ++
        ", ".intercalate (layoutParts columns) ++ ");")
  | createIndex name table columns =>
      .ok ("CREATE INDEX IF NOT EXISTS " ++ name ++ " ON " ++ table ++ " (" ++
        ", ".intercalate columns ++ ");")
  | dropTable name => .ok ("DROP TABLE IF EXISTS " ++ name ++ ";")
  | renameTable old new => .ok ("ALTER TABLE " ++ old ++ " RENAME TO " ++ new ++ ";")
  | addColumn table column =>
      .ok ("ALTER TABLE " ++ table ++ " ADD COLUMN " ++ column.toSql true ++ ";")
  | copyRows source target targetColumns sourceColumns =>
      .ok ("INSERT INTO " ++ target ++ " (" ++ ", ".intercalate targetColumns ++ ") SELECT " ++
        ", ".intercalate sourceColumns ++ " FROM " ++ source ++ ";")
  | insert table columns values policy =>
      .ok ("INSERT OR " ++ policy.keyword ++ " INTO " ++ table ++ " (" ++
        ", ".intercalate columns ++ ") VALUES (" ++
        ", ".intercalate (values.map Value.literal) ++ ");")
  | begin => .ok "BEGIN;"
  | commit => .ok "COMMIT;"
  | rollback => .ok "ROLLBACK;"
  | setUserVersion version => .ok ("PRAGMA user_version = " ++ toString version ++ ";")
  | unreadable text => .ok text

end Statement

/-- Statements to run one after another. -/
abbrev Script := List Statement

/-- The text of a script, a statement on each line; its first statement that does not compile is
the error. -/
def Script.toSql (script : Script) : Except QueryError String :=
  (script.mapM Statement.toSql).map ("\n".intercalate ·)

/-- Copies rows of a table into a table that already has the new layout, drops the first and gives
its name to the second.  SQL can neither drop nor rename a column portably; this does both. -/
def copyAndRename (table temp : String) (newColumns oldColumns : List String) : Script :=
  [.copyRows table temp newColumns oldColumns, .dropTable table, .renameTable temp table]

end SqlStore
