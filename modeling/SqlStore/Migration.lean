/-
# Migrations

A migration walks the version of the schema up to a target, one step at a time, and keeps every
version as soon as its step has succeeded.  A step that fails ends the walk where it is; after the
last step, or at once if there is none, the finalizer is told the version.

* `Migration.advance` : so many steps from a version on;
* `Migration.run` : the walk from the version that the database has.
-/
import SqlStore.Job

namespace SqlStore

/-- A target and what to do at every version on the way. -/
structure Migration (Note : Type) where
  target : Int32
  /-- Takes the schema from a version to the next. -/
  step : Int32 → Job Note Unit
  /-- Is told the final version; nobody is told of its errors. -/
  finalize : Option (Int32 → Job Note Unit)

namespace Migration

variable {Note : Type}

/-- A migration without a finalizer. -/
def new (target : Int32) (step : Int32 → Job Note Unit) : Migration Note :=
  { target, step, finalize := none }

/-- A migration whose steps are the scripts of a table. -/
def ofTable {Column Entity : Type} (t : Table Column Entity) (target : Int32) : Migration Note :=
  .new target fun version => Job.ofDb (Db.migrateTable t version)

/-- The migration with a finalizer. -/
def withFinalize (m : Migration Note) (finalize : Int32 → Job Note Unit) : Migration Note :=
  { m with finalize := some finalize }

/-- What the migration looks like from outside. -/
def describe (m : Migration Note) : String :=
  "Migration \x7b target: " ++ toString m.target ++ ", finalize: " ++
    toString m.finalize.isSome ++ ", .. \x7d"

/-- The error of a migration whose step from a version failed. -/
def stepError (version : Int32) : StoreError → StoreError
  | .migration detail => .migration detail
  | e => .migration ("step " ++ toString version ++ " -> " ++ toString (version + 1) ++ ": " ++
      e.message)

/-- The error of a migration that could not keep a version. -/
def persistError (version : Int32) (e : StoreError) : StoreError :=
  .migration ("failed to persist version " ++ toString version ++ ": " ++ e.message)

/-- Tells an error in other words; a panic goes on. -/
def rephrase {α : Type} (tell : StoreError → StoreError) (job : Job Note α) : Job Note α :=
  tryCatch job fun
    | .error e => Job.fail (tell e)
    | .panic message => Job.panic message

/-- Takes so many steps from a version on, and tells the version reached. -/
def advance (m : Migration Note) : Nat → Int32 → Job Note Int32
  | 0, version => pure version
  | count + 1, version => do
      rephrase (stepError version) (m.step version)
      rephrase (persistError (version + 1)) (Job.ofDb (Db.setUserVersion (version + 1)))
      m.advance count (version + 1)

/-- Takes every step from the version of the database to the target; a database that is there or
beyond takes none. -/
def run (m : Migration Note) : Job Note Int32 := do
  let start ← Job.ofDb Db.userVersion
  let reached ← m.advance (m.target.toInt - start.toInt).toNat start
  match m.finalize with
  | some finalize => discard (Job.attempt (finalize reached))
  | none => pure ()
  return reached

/-- Runs the migration; a panic of a step or of the finalizer is an error of the migration. -/
def runGuarded (m : Migration Note) : Job Note Int32 :=
  tryCatch m.run fun
    | .error e => Job.fail e
    | .panic message => Job.fail (.migration ("migration panicked: " ++ panicMessage message))

end Migration

end SqlStore
