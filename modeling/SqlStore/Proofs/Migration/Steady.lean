/-
# Jobs that leave the version alone

The version of the schema belongs to the migration.  A job is steady if it leaves the version, the
connection and its transaction as they are, however it ends; scripts of ordinary statements are.

* `Workspace.At` : an open writable connection at a version;
* `Job.Steady`, `Migration.Steady` : jobs and migrations that leave the version to the migration;
* `Job.steady_execute`, `Migration.steady_ofTable` : scripts, and migrations made of scripts.
-/
import SqlStore.Proofs.Job.Exec
import SqlStore.Proofs.Store.Version

namespace SqlStore

variable {Note α β : Type}

/-! ## The version that is kept -/

/-- There is an open writable connection at the version, in a transaction or not. -/
def Workspace.At (ws : Workspace Note) (inTransaction : Bool) (version : Int32) : Prop :=
  ∃ c, ws.database.connection = some c ∧ c.readOnly = false ∧ c.inTransaction = inTransaction ∧
    c.content.userVersion = version

/-- A workspace is at the version that its connection keeps. -/
theorem Workspace.At.eq_of_map {ws : Workspace Note} {b : Bool} {v v' : Int32} (h : ws.At b v)
    (h' : ws.database.connection.map (·.content.userVersion) = some v') : v = v' := by
  obtain ⟨c, hc, -, -, rfl⟩ := h
  rw [hc] at h'
  exact Option.some.inj h'

/-- Reading the version changes nothing. -/
theorem exec_userVersion {ws : Workspace Note} {b : Bool} {v : Int32} (h : ws.At b v)
    (s : Surroundings) : (Job.ofDb Db.userVersion : Job Note Int32).exec s ws = (.ok v, ws) := by
  obtain ⟨⟨files, connection, borrows⟩, notes, released⟩ := ws
  obtain ⟨c, hc, -, -, rfl⟩ := h
  cases hc
  rfl

/-- The version can be written, and is kept. -/
theorem exec_setUserVersion {ws : Workspace Note} {b : Bool} {v : Int32} (h : ws.At b v)
    (s : Surroundings) (next : Int32) :
    ∃ after, (Job.ofDb (Db.setUserVersion next) : Job Note Unit).exec s ws = (.ok (), after) ∧
      after.At b next := by
  obtain ⟨⟨files, connection, borrows⟩, notes, released⟩ := ws
  obtain ⟨⟨location, readOnly, journal, content, saved, dirty⟩, hc, hwritable, hsaved, -⟩ := h
  cases hc
  cases hwritable
  exact ⟨_, rfl, _, rfl, rfl, hsaved, rfl⟩

/-! ## Jobs that leave the version alone -/

/-- However the job ends, the connection is still open and writable, in a transaction if it was in
one, and the version is as it was. -/
def Job.Steady (inTransaction : Bool) (job : Job Note α) : Prop :=
  ∀ (s : Surroundings) (ws : Workspace Note) (v : Int32), ws.At inTransaction v →
    (job.exec s ws).2.At inTransaction v

/-- One program on the database after another. -/
theorem Db.run_bind {program : Db α} {next : α → Db β} {db after : Database} {a : α}
    (h : program.run.run db = (.ok a, after)) :
    (program >>= next).run.run db = (next a).run.run after := by
  show (ExceptT.bindCont next (program.run.run db).1).run (program.run.run db).2 = _
  rw [h]
  rfl

/-- A script on an open connection. -/
theorem Db.connection_runScript (blame : Fault → StoreError) (script : Script)
    (files : List (String × StoredFile)) (borrows : Nat) (c : Connection) :
    ((Db.withConnection (Db.runScript blame script)).run.run ⟨files, some c, borrows⟩).2.connection
      = some (c.runScript script).1 := by
  have hrun : ((Db.runScript blame script).run.run ⟨files, some c, borrows + 1⟩).2
      = ⟨files, some (c.runScript script).1, borrows + 1⟩ := by
    have hchange : (Db.changeConnection fun c => .ok (c.runScript script)).run.run
        ⟨files, some c, borrows + 1⟩
        = (.ok (c.runScript script).2, ⟨files, some (c.runScript script).1, borrows + 1⟩) := rfl
    rw [Db.runScript, Db.run_bind hchange]
    cases (c.runScript script).2 <;> rfl
  show ((Db.runScript blame script).run.run ⟨files, some c, borrows + 1⟩).2.giveBack.connection = _
  rw [hrun]
  rfl

namespace Job

variable {b : Bool}

theorem steady_pure (a : α) : (pure a : Job Note α).Steady b := fun _ _ _ h => h

theorem steady_fail (e : StoreError) : (fail e : Job Note α).Steady b := fun _ _ _ h => h

theorem steady_panic (message : Option String) : (panic message : Job Note α).Steady b :=
  fun _ _ _ h => h

theorem steady_note (n : Note) : (note n).Steady b := fun _ _ _ h => h

theorem Steady.bind {job : Job Note α} {next : α → Job Note β} (hjob : job.Steady b)
    (hnext : ∀ a, (next a).Steady b) : (job >>= next).Steady b := by
  intro s ws v h
  have hafter := hjob s ws v h
  rw [exec_bind]
  generalize job.exec s ws = x at hafter ⊢
  obtain ⟨r, after⟩ := x
  cases r with
  | ok a => exact hnext a s after v hafter
  | error failure => exact hafter

/-- A script of ordinary statements leaves the version alone. -/
theorem steady_runScript {script : Script} (hscript : ∀ s ∈ script, s.isOrdinary = true)
    (blame : Fault → StoreError) :
    (ofDb (Db.withConnection (Db.runScript blame script)) : Job Note Unit).Steady b := by
  intro s ws v hws
  obtain ⟨⟨files, connection, borrows⟩, notes, released⟩ := ws
  obtain ⟨c, hc, hwritable, htransaction, hversion⟩ := hws
  cases hc
  have hkeeps := Connection.keeps_runScript hscript c
  rw [exec_ofDb]
  refine ⟨_, Db.connection_runScript blame script files borrows c, ?_, ?_, ?_⟩
  · rw [hkeeps.readOnly, hwritable]
  · rw [Connection.inTransaction, hkeeps.saved, ← Connection.inTransaction, htransaction]
  · rw [hkeeps.version, hversion]

theorem steady_execute {script : Script} (hscript : ∀ s ∈ script, s.isOrdinary = true) :
    (ofDb (Db.execute script) : Job Note Unit).Steady b := by
  unfold Db.execute
  cases script.toSql with
  | ok text => exact steady_runScript hscript _
  | error e => exact steady_fail (.ofQuery e)

end Job

/-- The steps and the finalizer of the migration leave the version to it. -/
structure Migration.Steady (inTransaction : Bool) (m : Migration Note) : Prop where
  step : ∀ version, (m.step version).Steady inTransaction
  finalize : ∀ finalize ∈ m.finalize, ∀ version, (finalize version).Steady inTransaction

theorem Migration.steady_new {b : Bool} (target : Int32) {step : Int32 → Job Note Unit}
    (hstep : ∀ version, (step version).Steady b) : (Migration.new target step).Steady b := by
  refine ⟨hstep, ?_⟩
  rintro finalize ⟨⟩

theorem Migration.Steady.withFinalize {b : Bool} {m : Migration Note} (hm : m.Steady b)
    {finalize : Int32 → Job Note Unit} (hfinalize : ∀ version, (finalize version).Steady b) :
    (m.withFinalize finalize).Steady b := by
  refine ⟨hm.step, ?_⟩
  rintro finalize' ⟨⟩
  exact hfinalize

/-- The scripts of a table leave the version to the migration if they are ordinary, so that the
histories of migrations may be made of them. -/
theorem Migration.steady_ofTable {Column Entity : Type} {b : Bool} (t : Table Column Entity)
    (target : Int32) (hscripts : ∀ version, ∀ script ∈ t.migration version, ∀ s ∈ script,
      s.isOrdinary = true) : (Migration.ofTable t target : Migration Note).Steady b := by
  refine steady_new target fun version => ?_
  unfold Db.migrateTable
  cases hscript : t.migration version with
  | none => exact Job.steady_pure ()
  | some script => exact Job.steady_runScript (hscripts version script hscript) _

end SqlStore
