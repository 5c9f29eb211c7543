/-
# The engine

An engine gives one database to many clients.  Jobs go through the access lane in the order in
which they were queued.  A migration takes a ticket and posts a fence into the same queue; when the
access lane reaches the fence it stands still until the migration lane, which waits for just that,
has run the migration and the ticket has left the barrier.  So a migration runs at the place of its
fence, and no job runs beside it.

The engine is a transition system: `Engine.move` is one move of one thread, absent where the thread
has nothing to do or has to wait.  A job or a migration is one move, which is sound because nothing
else touches the database while it runs.

* `Engine.post`, `Engine.submit` : what a call puts into the queues;
* `Engine.moveAccess`, `Engine.moveMigration`, `Engine.moveClient` : the moves;
* `Engine.Step`, `Engine.Reaches` : moves of any thread, one and many.
-/
import SqlStore.Engine.Client

namespace SqlStore

/-! ## Messages -/

/-- A thread that can wait for a reply. -/
inductive Caller
  | client (index : Nat)
  /-- The migration lane, in the completion of a migration. -/
  | migrationLane
deriving DecidableEq, Inhabited

/-- A job and where its result goes. -/
inductive Work (Note : Type) : Type 1
  /-- The caller waits, and goes on with the result. -/
  | call {α : Type} (job : Job Note α) (caller : Caller)
      (resume : Except StoreError α → Client Note)
  /-- The completion takes the result, still on the access lane. -/
  | async {α : Type} (job : Job Note α) (completion : Except StoreError α → Job Note Unit)

/-- A message to the access lane. -/
inductive AccessMessage (Note : Type) : Type 1
  | work (w : Work Note)
  | fence (ticket : Nat)
  | shutdown

/-- Where the result of a migration goes. -/
inductive Completion (Note : Type) : Type 1
  /-- A program for the migration lane. -/
  | callback (program : Except StoreError Int32 → Client Note)
  /-- The caller waits, and goes on with the result. -/
  | reply (caller : Caller) (resume : Except StoreError Int32 → Client Note)

/-- A migration with its ticket. -/
structure MigrationTask (Note : Type) : Type 1 where
  ticket : Nat
  migration : Migration Note
  completion : Completion Note

/-- A message to the migration lane. -/
inductive MigrationMessage (Note : Type) : Type 1
  | task (t : MigrationTask Note)
  | shutdown

/-! ## Threads -/

/-- How far a program of calls has come. -/
inductive Progress (Note : Type) : Type 1
  | running (program : Client Note)
  /-- A reply will bring the rest of the program. -/
  | waiting
  /-- The lanes have been told to stop. -/
  | joining

/-- What the access lane does. -/
inductive AccessLane (Note : Type) : Type 1
  | idle
  | serving (w : Work Note)
  /-- Stands at a fence. -/
  | fenced (ticket : Nat)
  | stopped

/-- What the migration lane does. -/
inductive MigrationLane (Note : Type) : Type 1
  | idle
  /-- Waits until the fence of a task is reached. -/
  | awaiting (t : MigrationTask Note)
  | migrating (t : MigrationTask Note)
  /-- Runs the completion of a migration that has left the barrier. -/
  | completing (progress : Progress Note)
  | stopped

/-- A request for a migration on its way into the two queues; it keeps others from starting one. -/
structure Submission where
  holder : Caller
  ticket : Nat
  /-- Whether the fence is in its queue already. -/
  fenced : Bool
deriving DecidableEq, Inhabited

/-- An engine, its queues and its clients.  Tickets are counted from one on without an upper bound:
each request for a migration takes one, so that no run comes to the end of a machine word. -/
structure Engine (Note : Type) : Type 1 where
  accessName : String
  migrationName : String
  workspace : Workspace Note
  accessQueue : List (AccessMessage Note)
  migrationQueue : List (MigrationMessage Note)
  accessLane : AccessLane Note
  migrationLane : MigrationLane Note
  /-- The tickets whose fences have been reached. -/
  reached : List Nat
  /-- How many tickets have been given out. -/
  entered : Nat
  /-- The largest ticket that has left the barrier. -/
  left : Nat
  submission : Option Submission
  clients : List (Progress Note)

namespace Engine

variable {Note : Type}

/-- An engine with nothing to do. -/
def start (accessName migrationName : String) (workspace : Workspace Note) : Engine Note where
  accessName
  migrationName
  workspace
  accessQueue := []
  migrationQueue := []
  accessLane := .idle
  migrationLane := .idle
  reached := []
  entered := 0
  left := 0
  submission := none
  clients := []

/-- Whether a requested migration has not left the barrier. -/
def isMigrating (e : Engine Note) : Bool := e.left < e.entered

/-! ## Queues and replies -/

/-- Puts a message into the queue of the access lane. -/
def post (e : Engine Note) (m : AccessMessage Note) : Engine Note :=
  { e with accessQueue := e.accessQueue ++ [m] }

/-- Puts a message into the queue of the migration lane. -/
def postMigration (e : Engine Note) (m : MigrationMessage Note) : Engine Note :=
  { e with migrationQueue := e.migrationQueue ++ [m] }

/-- Tells both lanes to stop after what is queued already. -/
def shutDown (e : Engine Note) : Engine Note := (e.postMigration .shutdown).post .shutdown

/-- Lets a caller that waits go on with the rest of its program. -/
def resume (e : Engine Note) (program : Client Note) : Caller → Engine Note
  | .client i => { e with clients := e.clients.set i (.running program) }
  | .migrationLane => { e with migrationLane := .completing (.running program) }

/-- The next part of a request for a migration: it takes a ticket, then posts the fence, then the
task.  Tells whether the request is complete; absent while another request is on its way. -/
def submit (e : Engine Note) (holder : Caller) (migration : Migration Note)
    (completion : Completion Note) : Option (Engine Note × Bool) :=
  match e.submission with
  | none =>
      let ticket := e.entered + 1
      some ({ e with entered := ticket, submission := some ⟨holder, ticket, false⟩ }, false)
  | some s =>
      if s.holder ≠ holder then none
      else if s.fenced then
        some ({ e.postMigration (.task ⟨s.ticket, migration, completion⟩) with
          submission := none }, true)
      else
        some ({ e.post (.fence s.ticket) with submission := some { s with fenced := true } }, false)

/-! ## Moves of a program -/

/-- The error of a completion that asks its own lane to wait for itself. -/
def selfWait : StoreError := .migration "cannot wait for a migration from the migration lane"

/-- The next move of a program of calls. -/
def advance (e : Engine Note) (who : Caller) : Client Note → Option (Engine Note × Progress Note)
  | .done => none
  | .panic _ => some (e, .running .done)
  | .note n next =>
      some ({ e with workspace := { e.workspace with notes := n :: e.workspace.notes } },
        .running next)
  | .run job next => some (e.post (.work (.call job who next)), .waiting)
  | .runAsync job completion next => some (e.post (.work (.async job completion)), .running next)
  | .migrate m completion next =>
      (e.submit who m (.callback completion)).map fun (e, complete) =>
        (e, .running (if complete then next else .migrate m completion next))
  | .migrateBlocking m next =>
      match who with
      | .migrationLane => some (e, .running (next (.error selfWait)))
      | .client _ =>
          (e.submit who m (.reply who next)).map fun (e, complete) =>
            (e, if complete then .waiting else .running (.migrateBlocking m next))
  | .isMigrating next => some (e, .running (next e.isMigrating))
  | .release =>
      some (e.shutDown, match who with
        | .migrationLane => .running .done
        | .client _ => .joining)

/-! ## Moves of the lanes -/

/-- The engine after a job or a migration has used the workspace. -/
def withWorkspace (e : Engine Note) (w : Workspace Note) : Engine Note :=
  let e := { e with workspace := { w with released := false } }
  if w.released then e.shutDown else e

/-- Carries out a job and hands on its result. -/
def serve (e : Engine Note) : Work Note → Engine Note
  | .call job caller resume =>
      let (result, w) := job.outcome ⟨e.accessName, e.isMigrating⟩ e.workspace
      (e.withWorkspace w).resume (resume result) caller
  | .async job completion =>
      let (result, w) := job.outcome ⟨e.accessName, e.isMigrating⟩ e.workspace
      let (_, w) := (completion result).outcome ⟨e.accessName, e.isMigrating⟩ w
      e.withWorkspace w

/-- The next move of the access lane. -/
def moveAccess (e : Engine Note) : Option (Engine Note) :=
  match e.accessLane with
  | .idle =>
      match e.accessQueue with
      | [] => none
      | .work w :: rest => some { e with accessQueue := rest, accessLane := .serving w }
      | .fence ticket :: rest =>
          some { e with accessQueue := rest, accessLane := .fenced ticket
                        reached := ticket :: e.reached }
      | .shutdown :: rest => some { e with accessQueue := rest, accessLane := .stopped }
  | .serving w => some ({ e with accessLane := .idle }.serve w)
  | .fenced ticket => if ticket ≤ e.left then some { e with accessLane := .idle } else none
  | .stopped => none

/-- Runs a migration, lets its ticket leave the barrier and hands on its result. -/
def migrate (e : Engine Note) (t : MigrationTask Note) : Engine Note :=
  let (result, w) := t.migration.runGuarded.outcome ⟨e.migrationName, e.isMigrating⟩ e.workspace
  let e := { e.withWorkspace w with left := max e.left t.ticket }
  match t.completion with
  | .callback program => { e with migrationLane := .completing (.running (program result)) }
  | .reply caller resume => { e with migrationLane := .idle }.resume (resume result) caller

/-- The next move of the migration lane. -/
def moveMigration (e : Engine Note) : Option (Engine Note) :=
  match e.migrationLane with
  | .idle =>
      match e.migrationQueue with
      | [] => none
      | .task t :: rest => some { e with migrationQueue := rest, migrationLane := .awaiting t }
      | .shutdown :: rest => some { e with migrationQueue := rest, migrationLane := .stopped }
  | .awaiting t =>
      if e.reached.contains t.ticket then some { e with migrationLane := .migrating t } else none
  | .migrating t => some (e.migrate t)
  | .completing (.running .done) => some { e with migrationLane := .idle }
  | .completing (.running program) =>
      (e.advance .migrationLane program).map fun (e, progress) =>
        { e with migrationLane := .completing progress }
  | .completing _ => none
  | .stopped => none

/-- Whether both lanes have stopped. -/
def hasStopped (e : Engine Note) : Bool :=
  match e.accessLane, e.migrationLane with
  | .stopped, .stopped => true
  | _, _ => false

/-- The next move of a client. -/
def moveClient (e : Engine Note) (i : Nat) : Option (Engine Note) :=
  match e.clients[i]? with
  | some (.running program) =>
      (e.advance (.client i) program).map fun (e, progress) =>
        { e with clients := e.clients.set i progress }
  | some .joining =>
      if e.hasStopped then some { e with clients := e.clients.set i (.running .done) } else none
  | _ => none

/-! ## The transition system -/

/-- A thread of an engine. -/
inductive Thread
  | access
  | migration
  | client (index : Nat)
deriving DecidableEq, Inhabited

/-- The next move of a thread. -/
def move (e : Engine Note) : Thread → Option (Engine Note)
  | .access => e.moveAccess
  | .migration => e.moveMigration
  | .client i => e.moveClient i

/-- One engine becomes another by a move of some thread. -/
def Step (before after : Engine Note) : Prop := ∃ thread, before.move thread = some after

/-- One engine becomes another by any number of moves in any order of the threads. -/
inductive Reaches : Engine Note → Engine Note → Prop
  | refl (e : Engine Note) : Reaches e e
  | tail {first before after : Engine Note} :
      Reaches first before → before.Step after → Reaches first after

end Engine

end SqlStore
