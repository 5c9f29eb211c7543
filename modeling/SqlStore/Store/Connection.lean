/-
# Connections

A connection works on the content of a file, or on a content of its own in memory.  `BEGIN` keeps
the content as it is, `ROLLBACK` goes back to what was kept, and while nothing is kept every
statement is its own transaction.

* `Connection.run` : one statement, which changes nothing if it fails;
* `Connection.runScript` : statements up to the first that fails;
* `Connection.committed` : what a connection leaves behind.
-/
import SqlStore.Config.Basic
import SqlStore.Store.Run

namespace SqlStore

/-- Where the content of a connection is kept. -/
inductive Location
  | memory
  | file (name : String)
deriving DecidableEq, Inhabited

/-- An open connection. -/
structure Connection where
  location : Location
  readOnly : Bool
  journal : JournalMode
  content : Content
  /-- The content at the start of the open transaction, if one is open. -/
  saved : Option Content
  /-- Whether the open transaction has written. -/
  dirty : Bool
deriving DecidableEq, Inhabited

namespace Connection

/-- A connection of its own in memory. -/
def inMemory : Connection where
  location := .memory
  readOnly := false
  journal := .memory
  content := .empty
  saved := none
  dirty := false

/-- Whether a transaction is open. -/
def inTransaction (c : Connection) : Bool := c.saved.isSome

/-- The content without the changes of an open transaction. -/
def committed (c : Connection) : Content := c.saved.getD c.content

/-- Runs one statement, and tells how many rows it changed. -/
def run (c : Connection) (s : Statement) : Except Fault (Connection × Nat) :=
  match s, c.saved with
  | .begin, none => .ok ({ c with saved := some c.content, dirty := false }, 0)
  | .begin, some _ => .error .openTransaction
  | .commit, some _ => .ok ({ c with saved := none, dirty := false }, 0)
  | .rollback, some saved => .ok ({ c with content := saved, saved := none, dirty := false }, 0)
  | .commit, none | .rollback, none => .error .noTransaction
  | s, _ =>
      (if c.readOnly then c.content.runReadOnly s else c.content.run s).map
        fun (content, count) =>
          let dirty := c.inTransaction && (c.dirty || s.overwrites count || content != c.content)
          ({ c with content, dirty }, count)

/-- Runs statements one after another up to the first that fails. -/
def runScript (c : Connection) : Script → Connection × Option Fault
  | [] => (c, none)
  | s :: rest =>
      match c.run s with
      | .ok (next, _) => next.runScript rest
      | .error fault => (c, some fault)

/-- The answer of a query that shows rows. -/
def read (c : Connection) : Query → Except Fault ResultSet
  | .select s => c.content.select s
  | .join j => c.content.join j
  | _ => .error .malformed

/-- Changes the journal mode where that is possible; the mode afterwards is that of the
connection.  A content in memory has no log on disk, and the write-ahead log is part of the file,
so that it cannot come or go inside a transaction or where nothing may be written.  A transaction
that has written keeps the mode as it is. -/
def setJournal (c : Connection) (mode : JournalMode) : Except Fault Connection :=
  if c.dirty then .ok c
  else
    match c.location with
    | .memory => .ok (if mode == .memory || mode == .off then { c with journal := mode } else c)
    | .file _ =>
        if (c.journal == .wal) == (mode == .wal) then .ok { c with journal := mode }
        else if c.inTransaction then .error .journalBusy
        else if c.readOnly then .error .readOnly
        else .ok { c with journal := mode }

end Connection

end SqlStore
