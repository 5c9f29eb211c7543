/-
# Running an engine

Every order of moves gives the same results, so a run may take the simplest one: clients go on as
long as one of them can, and the lanes move only while all clients wait.

* `Engine.serveClients` : moves until no client has anything left to do;
* `Engine.drain` : moves of the lanes until neither has anything left to do;
* `Engine.isSettled` : whether an engine that has been drained is not in a deadlock;
* `Engine.restart` : another engine over the same files.
-/
import SqlStore.Engine.Basic

namespace SqlStore.Engine

variable {Note : Type}

/-- The engine with one more client. -/
def spawn (e : Engine Note) (program : Client Note) : Engine Note :=
  { e with clients := e.clients ++ [.running program] }

/-- Whether a client has nothing left to do. -/
def isFinished : Progress Note → Bool
  | .running program => program.isDone
  | _ => false

/-- A move of one of the lanes. -/
def moveLane (e : Engine Note) : Option (Engine Note) := e.moveAccess <|> e.moveMigration

/-- A move of the first client that can move. -/
def moveSomeClient (e : Engine Note) : Option (Engine Note) :=
  (List.range e.clients.length).findSome? e.moveClient

/-- Moves until every client has finished, or as often as allowed. -/
def serveClients : Nat → Engine Note → Engine Note
  | 0, e => e
  | fuel + 1, e =>
      if e.clients.all isFinished then { e with clients := [] }
      else
        match e.moveSomeClient <|> e.moveLane with
        | some next => serveClients fuel next
        | none => e

/-- Moves of the lanes until neither can move, or as often as allowed. -/
def drain : Nat → Engine Note → Engine Note
  | 0, e => e
  | fuel + 1, e =>
      match e.moveLane with
      | some next => drain fuel next
      | none => e

/-- Whether every client has finished and neither lane waits for anything but a message. -/
def isSettled (e : Engine Note) : Bool :=
  e.clients.all isFinished &&
    match e.accessLane, e.migrationLane with
    | .idle, .idle | .stopped, .stopped => true
    | _, _ => false

/-- Carries out a program of one client. -/
def call (fuel : Nat) (e : Engine Note) (program : Client Note) : Engine Note :=
  (e.spawn program).serveClients fuel

/-- An engine for a configuration, over the files that a workspace holds. -/
def ofConfig (config : EngineConfig) (w : Workspace Note) : Engine Note :=
  .start config.accessLane config.migrationLane
    { w with database := { Database.empty with files := w.database.release.files } }

/-- Lets go of an engine and starts another one over the same files. -/
def restart (fuel : Nat) (e : Engine Note) (config : EngineConfig) : Engine Note :=
  .ofConfig config (e.call fuel .release).workspace

end SqlStore.Engine
