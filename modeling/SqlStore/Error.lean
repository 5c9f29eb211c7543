/-
# Errors

A `QueryError` is found before anything reaches a database: an operand that does not fit its
operator, an update that assigns nothing, or a row value of the wrong type.  A `StoreError` is what
an operation of a database reports: the phase that failed and the detail.
-/
import SqlStore.Value

namespace SqlStore

/-- Why a query does not compile, or a row does not decode. -/
inductive QueryError
  /-- `IN` or `NOT IN` has an operand that is absent, or no list. -/
  | operandNotList (found : Option ScalarKind)
  /-- A list operand has elements of two kinds. -/
  | mixedList (first other : ScalarKind)
  /-- No assignment is left for the `SET` clause. -/
  | noAssignments (table : String)
  /-- Any other refusal of an argument. -/
  | invalidArgument (detail : String)
  /-- The value at a position cannot be read as the type asked for. -/
  | unreadable (position : Nat) (column : String) (type : String)
  /-- Any other refusal of a row. -/
  | decode (detail : String)
deriving DecidableEq, Inhabited

namespace QueryError

/-- What went wrong, without the class of the error. -/
def detail : QueryError → String
  | operandNotList found =>
      "expected a list operand, found " ++ found.elim "NULL" ScalarKind.name
  | mixedList first other => "list mixes " ++ first.name ++ " and " ++ other.name ++ " elements"
  | noAssignments table => "update of " ++ table ++ " has no column assignments"
  | invalidArgument detail => detail
  | unreadable position column type =>
      "column " ++ toString position ++ " (" ++ column ++ ") has no value of type " ++ type
  | decode detail => detail

/-- Whether the error concerns a row, and not the text of a query. -/
def isDecode : QueryError → Bool
  | unreadable .. | decode _ => true
  | _ => false

/-- The name of the class of the error. -/
def kind (e : QueryError) : String := if e.isDecode then "Decode" else "InvalidArgument"

/-- The full message. -/
def message (e : QueryError) : String :=
  (if e.isDecode then "decode error: " else "invalid argument: ") ++ e.detail

end QueryError

/-- What an operation of a database, a migration or the engine reports. -/
inductive StoreError
  | open (detail : String)
  | close (detail : String)
  | prepare (detail : String)
  | step (detail : String)
  | transaction (detail : String)
  | migration (detail : String)
  | invalidArgument (detail : String)
  | notOpen
  | execute (detail : String)
  | panicked (detail : String)
  | disconnected
  | config (detail : String)
  | io (detail : String)
deriving DecidableEq, Inhabited

namespace StoreError

/-- The name of the class of the error. -/
def kind : StoreError → String
  | .open _ => "Open"
  | close _ => "Close"
  | prepare _ => "Prepare"
  | step _ => "Step"
  | transaction _ => "Transaction"
  | migration _ => "Migration"
  | invalidArgument _ => "InvalidArgument"
  | notOpen => "NotOpen"
  | execute _ => "Execute"
  | panicked _ => "Panicked"
  | disconnected => "Disconnected"
  | config _ => "Config"
  | io _ => "Io"

/-- The full message. -/
def message : StoreError → String
  | .open detail => "failed to open database: " ++ detail
  | close detail => "failed to close database: " ++ detail
  | prepare detail => "failed to prepare statement: " ++ detail
  | step detail => "failed to step statement: " ++ detail
  | transaction detail => "transaction rolled back: " ++ detail
  | migration detail => "migration failed: " ++ detail
  | invalidArgument detail => "invalid argument: " ++ detail
  | notOpen => "database is not open"
  | execute detail => "failed to execute statement: " ++ detail
  | panicked detail => "job panicked: " ++ detail
  | disconnected => "engine lanes have shut down"
  | config detail => "configuration error: " ++ detail
  | io detail => "I/O error: " ++ detail

/-- The error of a class with a detail, where the class has one. -/
def ofKind? (kind detail : String) : Option StoreError :=
  [.open detail, close detail, prepare detail, step detail, transaction detail, migration detail,
    invalidArgument detail, notOpen, execute detail, panicked detail, disconnected, config detail,
    io detail].find? fun e => e.kind == kind

/-- A query that does not compile is an invalid argument; a row that does not decode fails the
step that produced it. -/
def ofQuery (e : QueryError) : StoreError :=
  if e.isDecode then step e.detail else invalidArgument e.detail

end StoreError

end SqlStore
