/-
# Databases

A `Database` holds at most one connection over the files of a directory.  Operations run in `Db`,
where a failure keeps what has happened so far.  While an operation uses the connection it is
borrowed, and a borrowed connection can be neither replaced nor closed.

* `Db.withConnection` : runs a body while the connection is in use;
* `Db.openFile`, `Db.openReadOnly`, `Db.openInMemory`, `Db.close` : the connection itself;
* `Db.execute`, `Db.executeTransaction` : scripts.
-/
import SqlStore.Store.Connection
import SqlStore.Table.Basic

namespace SqlStore

/-- How an operation ends without a result. -/
inductive Failure
  | error (e : StoreError)
  /-- A callback gave up, with a message if it has one. -/
  | panic (message : Option String)
deriving DecidableEq, Inhabited

/-- The content of a file, and whether its journal is the write-ahead log. -/
structure StoredFile where
  content : Content
  writeAhead : Bool
deriving DecidableEq, Inhabited

/-- A directory of files and at most one connection. -/
structure Database where
  files : List (String × StoredFile)
  connection : Option Connection
  /-- How many operations use the connection. -/
  borrows : Nat
deriving DecidableEq, Inhabited

/-- A program that works on a database and may fail. -/
abbrev Db := ExceptT Failure (StateM Database)

namespace Database

/-- No files and no connection. -/
def empty : Database := { files := [], connection := none, borrows := 0 }

/-- No files and a connection in memory. -/
def inMemory : Database := { empty with connection := some .inMemory }

/-- The file of a name. -/
def file? (db : Database) (name : String) : Option StoredFile := db.files.lookup name

/-- The same files with another content of one of them. -/
def withFile (db : Database) (name : String) (file : StoredFile) : Database :=
  { db with files := (name, file) :: db.files.filter (·.1 != name) }

/-- The database while one more operation uses the connection. -/
def borrow (db : Database) : Database := { db with borrows := db.borrows + 1 }

/-- The database when that operation is over. -/
def giveBack (db : Database) : Database := { db with borrows := db.borrows - 1 }

/-- Writes back what the connection leaves behind and lets go of it; an open transaction is rolled
back, and a content in memory is gone. -/
def release (db : Database) : Database :=
  match db.connection with
  | none => db
  | some c =>
      match c.location with
      | .memory => { db with connection := none }
      | .file name =>
          { db.withFile name ⟨c.committed, c.journal == .wal⟩ with connection := none }

/-- A new connection to a file, which is empty if it is new. -/
def attach (db : Database) (name : String) (readOnly : Bool) : Connection :=
  let file := (db.file? name).getD ⟨.empty, false⟩
  { location := .file name, readOnly
    journal := if file.writeAhead then .wal else .delete
    content := file.content, saved := none, dirty := false }

end Database

/-- Whether the directory can hold a file of the name. -/
def isFileName (name : String) : Bool :=
  !name.isEmpty && name != "." && name != ".." && !name.contains '/' && !name.contains '\x00'

namespace Fault

/-- A fault of a typed operation, told by the phase it is found in. -/
def asStatement (f : Fault) : StoreError :=
  if f.isPrepare then .prepare f.message else .step f.message

/-- A fault of a script. -/
def asExecute (f : Fault) : StoreError := .execute f.message

/-- A fault inside a transaction. -/
def asTransaction (f : Fault) : StoreError := .transaction f.message

end Fault

namespace Db

variable {α : Type}

/-- Fails with an error. -/
def fail (e : StoreError) : Db α := throw (.error e)

/-- Gives up. -/
def panic (message : Option String) : Db α := throw (.panic message)

/-- The result of a query that compiles. -/
def orInvalid (a : Except QueryError α) : Db α :=
  match a with
  | .ok a => pure a
  | .error e => fail (.ofQuery e)

/-! ## The connection -/

/-- Runs a body while the connection is in use, however the body ends. -/
def withConnection (body : Db α) : Db α :=
  ExceptT.mk fun db =>
    if db.connection.isNone then (.error (.error .notOpen), db)
    else
      let (result, after) := body.run db.borrow
      (result, after.giveBack)

/-- Looks at the connection. -/
def askConnection (ask : Connection → Except StoreError α) : Db α := do
  match (← get).connection with
  | none => fail .notOpen
  | some c =>
      match ask c with
      | .ok a => pure a
      | .error e => fail e

/-- Changes the connection, unless the change fails. -/
def changeConnection (change : Connection → Except StoreError (Connection × α)) : Db α := do
  let (c, a) ← askConnection change
  modify fun db => { db with connection := some c }
  return a

/-- Whether a connection is open. -/
def isOpen : Db Bool := return (← get).connection.isSome

/-- Takes a new connection in place of the one held, which must not be in use. -/
def install (connect : Database → Connection) : Db Unit := do
  if (← get).borrows ≠ 0 then fail (.open "connection is in use")
  modify fun db => { db.release with connection := some (connect db.release) }

/-- Opens a file, which is made if it is missing. -/
def openFile (name : String) : Db Unit := do
  if !isFileName name then fail (.open (name ++ ": unable to open database file"))
  if ((← get).file? name).isNone then modify (·.withFile name ⟨.empty, false⟩)
  install (·.attach name false)

/-- Opens a file that exists, without writing to it. -/
def openReadOnly (name : String) : Db Unit := do
  if ((← get).file? name).isNone then fail (.open (name ++ ": unable to open database file"))
  install (·.attach name true)

/-- Opens a database of its own in memory. -/
def openInMemory : Db Unit := install fun _ => .inMemory

/-- Closes the connection, which must not be in use.  SQLite refuses to close one with a statement
that is not finished, and it would be kept then; but every statement is finished with the operation
that prepared it, and while that operation runs the connection is in use. -/
def close : Db Unit := do
  if (← get).borrows ≠ 0 then fail (.close "connection is in use")
  if (← get).connection.isNone then fail (.close "no open connection")
  modify Database.release

/-! ## Statements and scripts -/

/-- Runs one statement on the connection, and tells how many rows it changed. -/
def runStatement (blame : Fault → StoreError) (s : Statement) : Db Nat :=
  changeConnection fun c => (c.run s).mapError blame

/-- Runs a script on the connection; what it did before it failed stays. -/
def runScript (blame : Fault → StoreError) (script : Script) : Db Unit := do
  let fault ← changeConnection fun c => .ok (c.runScript script)
  match fault with
  | some fault => fail (blame fault)
  | none => pure ()

/-- Runs a script, whose text has to compile as a whole. -/
def execute (script : Script) : Db Unit := do
  discard (orInvalid script.toSql)
  withConnection (runScript Fault.asExecute script)

/-- Runs a body between `BEGIN` and `COMMIT`.  If it fails, or the commit does, the transaction is
rolled back unless it is already over. -/
def transaction (body : Db Unit) : Db Unit := do
  let rollback : Db Unit := do
    if (← askConnection fun c => .ok c.inTransaction) then
      discard (runStatement Fault.asTransaction .rollback)
  discard (runStatement Fault.asTransaction .begin)
  tryCatch (do body; discard (runStatement Fault.asTransaction .commit)) fun failure => do
    rollback
    throw failure

/-- Runs a script as one transaction. -/
def executeTransaction (script : Script) : Db Unit := do
  discard (orInvalid script.toSql)
  withConnection (transaction (runScript Fault.asTransaction script))

/-! ## Version and journal -/

/-- The version of the schema. -/
def userVersion : Db Int32 := withConnection (askConnection fun c => .ok c.content.userVersion)

/-- Sets the version of the schema. -/
def setUserVersion (version : Int32) : Db Unit := execute [.setUserVersion version]

/-- The journal mode. -/
def journalMode : Db JournalMode := withConnection (askConnection fun c => .ok c.journal)

/-- Asks for a journal mode, and tells which one the connection has then. -/
def setJournalMode (mode : JournalMode) : Db JournalMode :=
  withConnection (changeConnection fun c =>
    ((c.setJournal mode).map fun c => (c, c.journal)).mapError Fault.asExecute)

/-! ## Tables -/

variable {Column Entity : Type}

/-- Creates a table unless it exists. -/
def createTable (t : Table Column Entity) : Db Unit :=
  withConnection (discard (runStatement Fault.asStatement t.create))

/-- Drops a table if it exists. -/
def dropTable (t : Table Column Entity) : Db Unit :=
  withConnection (discard (runStatement Fault.asStatement t.drop))

/-- Runs the script that takes a table from a version to the next, if it has one. -/
def migrateTable (t : Table Column Entity) (version : Int32) : Db Unit :=
  match t.migration version with
  | none => pure ()
  | some script =>
      withConnection (runScript (fun f =>
        .migration (t.name ++ " at version " ++ toString version ++ ": " ++ f.message)) script)

end Db

end SqlStore
