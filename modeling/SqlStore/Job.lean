/-
# Jobs

A job is a program that has the database to itself.  Besides the database it can leave notes for
whoever looks at the run afterwards, ask where it runs, and let go of the engine that runs it.  A
job that calls back into its own engine is carried out where it stands, because it already has the
database to itself.

* `Job.run` : a nested call, whose panic becomes an error;
* `Job.withConnection` : keeps the connection in use while a body runs;
* `Job.outcome` : what the caller of a job is told.
-/
import SqlStore.Database.Change

namespace SqlStore

/-- Where a job runs. -/
structure Surroundings where
  /-- The name of the thread. -/
  lane : String
  /-- Whether a requested migration has not finished. -/
  isMigrating : Bool
deriving DecidableEq, Inhabited

/-- What a job can change: the database, and notes of a type of the user's choice. -/
structure Workspace (Note : Type) where
  database : Database
  /-- The notes left so far, the last one first. -/
  notes : List Note
  /-- Whether a job has let go of the last handle of the engine. -/
  released : Bool
deriving Inhabited

/-- A program that has the database to itself. -/
abbrev Job (Note : Type) := ReaderT Surroundings (ExceptT Failure (StateM (Workspace Note)))

/-- What a panic says about itself. -/
def panicMessage (message : Option String) : String := message.getD "non-string panic payload"

namespace Failure

/-- The error that the caller of a job is told; a panic is reported as one. -/
def jobError : Failure → StoreError
  | error e => e
  | panic message => .panicked (panicMessage message)

end Failure

namespace Job

variable {Note α : Type}

/-- A program on the database alone. -/
def ofDb (program : Db α) : Job Note α :=
  fun _ => ExceptT.mk fun w =>
    let (result, database) := program.run.run w.database
    (result, { w with database })

/-- Fails with an error. -/
def fail (e : StoreError) : Job Note α := throw (.error e)

/-- Gives up, with a message if there is one. -/
def panic (message : Option String) : Job Note α := throw (.panic message)

/-- Leaves a note. -/
def note (n : Note) : Job Note Unit := modify fun w => { w with notes := n :: w.notes }

/-- The name of the thread that the job runs on. -/
def lane : Job Note String := return (← read).lane

/-- Whether a requested migration has not finished. -/
def isMigrating : Job Note Bool := return (← read).isMigrating

/-- Lets go of the last handle of the engine. -/
def release : Job Note Unit := modify fun w => { w with released := true }

/-- The result of a job or its error; a panic goes on. -/
def attempt (job : Job Note α) : Job Note (Except StoreError α) :=
  tryCatch (return .ok (← job)) fun
    | .error e => return .error e
    | .panic message => panic message

/-- A nested call, carried out where it stands. -/
def run (job : Job Note α) : Job Note α :=
  tryCatch job fun failure => fail failure.jobError

/-- Runs a body while the connection is in use, however the body ends. -/
def withConnection (body : Job Note α) : Job Note α :=
  fun surroundings => ExceptT.mk fun w =>
    if w.database.connection.isNone then (.error (.error .notOpen), w)
    else
      let (result, after) := (body surroundings).run { w with database := w.database.borrow }
      (result, { after with database := after.database.giveBack })

/-- What the caller of a job is told, and the workspace afterwards. -/
def outcome (job : Job Note α) (surroundings : Surroundings) (w : Workspace Note) :
    Except StoreError α × Workspace Note :=
  let (result, after) := (job surroundings).run w
  (result.mapError Failure.jobError, after)

end Job

end SqlStore
