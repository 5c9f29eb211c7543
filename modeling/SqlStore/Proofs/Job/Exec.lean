/-
# Running a job

A job reads where it runs, may fail, and changes a workspace.  What comes of it is computed by the
rules of this module, one for every way to build a job.

* `Job.exec` : the result of a job and the workspace after it;
* `Job.exec_bind`, `Job.exec_tryCatch` : jobs made of others;
* `Job.OnDatabase` : jobs that depend on the thread and the database alone;
* `Migration.onDatabase_runGuarded` : a migration is one if its steps and its finalizer are.
-/
import SqlStore.Migration

namespace SqlStore

variable {Note α β : Type}

namespace Job

/-! ## Results -/

/-- The result of a job and the workspace after it. -/
def exec (job : Job Note α) (s : Surroundings) (ws : Workspace Note) :
    Except Failure α × Workspace Note :=
  (job s).run ws

section

variable (s : Surroundings) (ws : Workspace Note)

theorem outcome_eq (job : Job Note α) :
    job.outcome s ws = ((job.exec s ws).1.mapError Failure.jobError, (job.exec s ws).2) := rfl

@[simp] theorem exec_pure (a : α) : (pure a : Job Note α).exec s ws = (.ok a, ws) := rfl

@[simp] theorem exec_fail (e : StoreError) :
    (fail e : Job Note α).exec s ws = (.error (.error e), ws) := rfl

@[simp] theorem exec_panic (message : Option String) :
    (panic message : Job Note α).exec s ws = (.error (.panic message), ws) := rfl

/-- A program on the database leaves the rest of the workspace alone. -/
theorem exec_ofDb (program : Db α) :
    (ofDb program : Job Note α).exec s ws
      = ((program.run.run ws.database).1,
        { ws with database := (program.run.run ws.database).2 }) := rfl

/-- One job after another, unless the first one fails. -/
theorem exec_bind (job : Job Note α) (next : α → Job Note β) :
    (job >>= next).exec s ws = match job.exec s ws with
      | (.ok a, after) => (next a).exec s after
      | (.error failure, after) => (.error failure, after) := by
  show (match job.exec s ws with
    | (r, after) => (ExceptT.bindCont (fun a => next a s) r).run after) = _
  obtain ⟨r, after⟩ := job.exec s ws
  cases r <;> rfl

/-- A job, and what is done if it fails. -/
theorem exec_tryCatch (job : Job Note α) (handler : Failure → Job Note α) :
    (tryCatch job handler).exec s ws = match job.exec s ws with
      | (.ok a, after) => (.ok a, after)
      | (.error failure, after) => (handler failure).exec s after := by
  rcases hjob : job.exec s ws with ⟨r, after⟩
  have hrun : job s ws = (r, after) := hjob
  show ExceptT.tryCatch (job s) (fun failure => handler failure s) ws = _
  rw [ExceptT.tryCatch, ExceptT.mk]
  simp only [bind, StateT.bind, hrun]
  cases r <;> rfl

/-- A job whose result is not used. -/
theorem exec_discard (job : Job Note α) :
    (discard job).exec s ws = match job.exec s ws with
      | (.ok _, after) => (.ok (), after)
      | (.error failure, after) => (.error failure, after) := by
  rcases hjob : job.exec s ws with ⟨r, after⟩
  have hrun : job s ws = (r, after) := hjob
  show ExceptT.map (fun _ => ()) (job s) ws = _
  rw [ExceptT.map, ExceptT.mk]
  simp only [bind, StateT.bind, hrun]
  cases r <;> rfl

/-- The result of a job or its error; a panic goes on. -/
theorem exec_attempt (job : Job Note α) :
    job.attempt.exec s ws = match job.exec s ws with
      | (.ok a, after) => (.ok (.ok a), after)
      | (.error (.error e), after) => (.ok (.error e), after)
      | (.error (.panic message), after) => (.error (.panic message), after) := by
  have hbind : (job >>= fun a => (pure (.ok a) : Job Note (Except StoreError α))).exec s ws
      = match job.exec s ws with
        | (.ok a, after) => (.ok (.ok a), after)
        | (.error failure, after) => (.error failure, after) := by
    rw [exec_bind]
    rfl
  rw [attempt, exec_tryCatch, hbind]
  obtain ⟨r, after⟩ := job.exec s ws
  cases r with
  | ok a => rfl
  | error failure => cases failure <;> rfl

end

/-! ## Jobs on the database alone -/

/-- What comes of the job and of the database depends on the thread and the database alone: neither
on notes nor on whether a migration has been requested. -/
def OnDatabase (job : Job Note α) : Prop :=
  ∀ (s s' : Surroundings) (ws ws' : Workspace Note), s.lane = s'.lane →
    ws.database = ws'.database → (job.exec s ws).1 = (job.exec s' ws').1 ∧
      (job.exec s ws).2.database = (job.exec s' ws').2.database

theorem onDatabase_pure (a : α) : (pure a : Job Note α).OnDatabase :=
  fun _ _ _ _ _ hdatabase => ⟨rfl, hdatabase⟩

theorem onDatabase_fail (e : StoreError) : (fail e : Job Note α).OnDatabase :=
  fun _ _ _ _ _ hdatabase => ⟨rfl, hdatabase⟩

theorem onDatabase_panic (message : Option String) : (panic message : Job Note α).OnDatabase :=
  fun _ _ _ _ _ hdatabase => ⟨rfl, hdatabase⟩

theorem onDatabase_ofDb (program : Db α) : (ofDb program : Job Note α).OnDatabase := by
  intro s s' ws ws' _ hdatabase
  rw [exec_ofDb, exec_ofDb, hdatabase]
  exact ⟨rfl, rfl⟩

theorem OnDatabase.bind {job : Job Note α} {next : α → Job Note β} (hjob : job.OnDatabase)
    (hnext : ∀ a, (next a).OnDatabase) : (job >>= next).OnDatabase := by
  intro s s' ws ws' hlane hdatabase
  obtain ⟨hresult, hafter⟩ := hjob s s' ws ws' hlane hdatabase
  rw [exec_bind, exec_bind]
  generalize job.exec s ws = x at hresult hafter
  generalize job.exec s' ws' = y at hresult hafter
  obtain ⟨r, after⟩ := x
  obtain ⟨r', after'⟩ := y
  cases hresult
  cases r with
  | ok a => exact hnext a s s' after after' hlane hafter
  | error failure => exact ⟨rfl, hafter⟩

theorem OnDatabase.tryCatch {job : Job Note α} {handler : Failure → Job Note α}
    (hjob : job.OnDatabase) (hhandler : ∀ failure, (handler failure).OnDatabase) :
    (tryCatch job handler).OnDatabase := by
  intro s s' ws ws' hlane hdatabase
  obtain ⟨hresult, hafter⟩ := hjob s s' ws ws' hlane hdatabase
  rw [exec_tryCatch, exec_tryCatch]
  generalize job.exec s ws = x at hresult hafter
  generalize job.exec s' ws' = y at hresult hafter
  obtain ⟨r, after⟩ := x
  obtain ⟨r', after'⟩ := y
  cases hresult
  cases r with
  | ok a => exact ⟨rfl, hafter⟩
  | error failure => exact hhandler failure s s' after after' hlane hafter

/-- A nested call depends on no more than the job that is called. -/
theorem OnDatabase.run {job : Job Note α} (h : job.OnDatabase) : job.run.OnDatabase :=
  h.tryCatch fun _ => onDatabase_fail _

theorem OnDatabase.attempt {job : Job Note α} (h : job.OnDatabase) : job.attempt.OnDatabase := by
  refine .tryCatch (h.bind fun _ => onDatabase_pure _) fun failure => ?_
  cases failure with
  | error e => exact onDatabase_pure _
  | panic message => exact onDatabase_panic message

end Job

namespace Migration

open Job

/-- Telling an error in other words needs nothing more. -/
theorem onDatabase_rephrase (tell : StoreError → StoreError) {job : Job Note α}
    (h : job.OnDatabase) : (rephrase tell job).OnDatabase := by
  refine h.tryCatch fun failure => ?_
  cases failure with
  | error e => exact onDatabase_fail _
  | panic message => exact onDatabase_panic message

theorem onDatabase_advance {m : Migration Note} (hstep : ∀ version, (m.step version).OnDatabase)
    (count : Nat) (version : Int32) : (m.advance count version).OnDatabase := by
  induction count generalizing version with
  | zero => exact onDatabase_pure version
  | succ count ih =>
      refine (onDatabase_rephrase _ (hstep version)).bind fun _ => ?_
      exact (onDatabase_rephrase _ (onDatabase_ofDb _)).bind fun _ => ih (version + 1)

/-- A migration is on the database alone if its steps and its finalizer are. -/
theorem onDatabase_runGuarded {m : Migration Note} (hstep : ∀ version, (m.step version).OnDatabase)
    (hfinalize : ∀ finalize ∈ m.finalize, ∀ version, (finalize version).OnDatabase) :
    m.runGuarded.OnDatabase := by
  have hrun : m.run.OnDatabase := by
    refine (onDatabase_ofDb _).bind fun start => ?_
    refine (onDatabase_advance hstep _ start).bind fun reached => ?_
    cases hm : m.finalize with
    | none => exact (onDatabase_pure ()).bind fun _ => onDatabase_pure reached
    | some finalize =>
        have hjob := hfinalize finalize hm reached
        exact (hjob.attempt.bind fun _ => onDatabase_pure ()).bind fun _ =>
          onDatabase_pure reached
  refine hrun.tryCatch fun failure => ?_
  cases failure <;> exact onDatabase_fail _

end Migration

end SqlStore
