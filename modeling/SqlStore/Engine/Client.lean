/-
# Programs outside the lanes

A client is a thread that holds a handle of an engine.  What it does is a program of calls, each
followed by the rest of the program; a call that waits for a reply names the rest as a function of
that reply.  A completion of a migration is such a program too, since it runs when the migration no
longer has the database to itself.

* `Client` : programs of calls;
* `EngineConfig.connect` : opens what a configuration names.
-/
import SqlStore.Migration

namespace SqlStore

/-- A program of calls on an engine. -/
inductive Client (Note : Type) : Type 1
  | done
  /-- Gives up, with a message if there is one; the thread that runs the program catches that. -/
  | panic (message : Option String)
  | note (n : Note) (next : Client Note)
  /-- Queues a job and waits for its result. -/
  | run {α : Type} (job : Job Note α) (next : Except StoreError α → Client Note)
  /-- Queues a job, whose result goes to a completion beside it. -/
  | runAsync {α : Type} (job : Job Note α) (completion : Except StoreError α → Job Note Unit)
      (next : Client Note)
  /-- Requests a migration, whose result goes to a completion on the migration lane. -/
  | migrate (m : Migration Note) (completion : Except StoreError Int32 → Client Note)
      (next : Client Note)
  /-- Requests a migration and waits for its result. -/
  | migrateBlocking (m : Migration Note) (next : Except StoreError Int32 → Client Note)
  | isMigrating (next : Bool → Client Note)
  /-- Lets go of the last handle of the engine. -/
  | release

namespace Client

variable {Note : Type}

/-- Whether the program is over. -/
def isDone : Client Note → Bool
  | done => true
  | _ => false

/-- Runs a job so many times, whatever comes of it. -/
def repeatRun {α : Type} (job : Job Note α) (next : Client Note) : Nat → Client Note
  | 0 => next
  | count + 1 => run job fun _ => repeatRun job next count

end Client

/-- Opens the database of a configuration and asks for its journal mode, which the database need
not grant. -/
def EngineConfig.connect {Note : Type} (config : EngineConfig)
    (next : Except StoreError Unit → Client Note) : Client Note :=
  let connection : Db Unit :=
    if config.readOnly then .openReadOnly config.path else .openFile config.path
  .run (Job.ofDb connection) fun
    | .error e => next (.error e)
    | .ok () =>
        match config.journalMode with
        | none => next (.ok ())
        | some mode => .run (Job.ofDb (Db.setJournalMode mode)) fun r => next (r.map fun _ => ())

end SqlStore
