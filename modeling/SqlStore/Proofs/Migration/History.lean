/-
# Histories of migrations

Migrations with any targets run one after another, some of them to their end, some until a step
fails or gives up.  Each run goes on where the one before it has stopped, so that over a whole
history no version is skipped, none is left twice, and the database never goes back.

* `MigrationTrace`, `Migration.trace`, `Migration.outcome_runGuarded` : a run with all its calls;
* `MigrationTrace.Sound`, `Migration.trace_sound` : one run;
* `MigrationHistory`, `Migration.histories_sound` : a history.
-/
import SqlStore.Proofs.Migration.Walk

namespace SqlStore

variable {Note α : Type}

/-! ## One run -/

/-- Whether the call gave up. -/
def VersionCall.panicked (c : VersionCall Note) : Bool :=
  match c.result with
  | .error (.panic _) => true
  | _ => false

/-- How a failure of a migration is told; a panic is told as an error of the migration. -/
def Failure.migrationError : Failure → StoreError
  | error e => e
  | panic message => .migration ("migration panicked: " ++ panicMessage message)

/-- A run of a migration: its walk, the call of its finalizer if there was one, and its end. -/
structure MigrationTrace (Note : Type) where
  walk : Walk Note
  finalized : Option (VersionCall Note)
  result : Except Failure Int32
  after : Workspace Note

/-- What the caller of the migration is told. -/
def MigrationTrace.reply (t : MigrationTrace Note) : Except StoreError Int32 :=
  match t.result with
  | .ok version => .ok version
  | .error failure => .error failure.migrationError

namespace Migration

variable (m : Migration Note) (s : Surroundings)

/-- The end of a run whose finalizer has been called: its error is dropped, its panic is not. -/
def finalResult (version : Int32) : Except Failure Unit → Except Failure Int32
  | .error (.panic message) => .error (.panic message)
  | _ => .ok version

/-- Walks from the version of the database, and calls the finalizer if the walk is not cut short. -/
def trace (ws : Workspace Note) : MigrationTrace Note :=
  match (Job.ofDb Db.userVersion : Job Note Int32).exec s ws with
  | (.error failure, after) =>
      { walk := ⟨[], .error failure, after⟩, finalized := none, result := .error failure, after }
  | (.ok start, ws) =>
      let walk := m.walk s start ws
      match walk.result, m.finalize with
      | .ok reached, some finalize =>
          let (result, after) := (finalize reached).exec s walk.after
          { walk, finalized := some ⟨reached, walk.after, result, after⟩
            result := finalResult reached result
            after }
      | result, _ => { walk, finalized := none, result, after := walk.after }

/-- A migration runs like that. -/
theorem exec_run (ws : Workspace Note) :
    m.run.exec s ws = ((m.trace s ws).result, (m.trace s ws).after) := by
  rw [run, Job.exec_bind, trace]
  obtain ⟨r, read⟩ := (Job.ofDb Db.userVersion : Job Note Int32).exec s ws
  cases r with
  | error failure => rfl
  | ok start =>
      simp only [Job.exec_bind, exec_advance]
      cases hresult : (m.walk s start read).result with
      | error failure => rfl
      | ok reached =>
          cases hfinalize : m.finalize with
          | none => rfl
          | some finalize =>
              simp only [Job.exec_bind, Job.exec_discard, Job.exec_attempt]
              generalize (finalize reached).exec s (m.walk s start read).after = x
              obtain ⟨r, after⟩ := x
              cases r with
              | ok u => rfl
              | error failure => cases failure <;> rfl

/-- What the caller of a migration is told of a run like that. -/
theorem outcome_runGuarded (ws : Workspace Note) :
    m.runGuarded.outcome s ws = ((m.trace s ws).reply, (m.trace s ws).after) := by
  rw [Job.outcome_eq, runGuarded, Job.exec_tryCatch, exec_run, MigrationTrace.reply]
  cases (m.trace s ws).result with
  | ok reached => rfl
  | error failure => cases failure <;> rfl

end Migration

/-! ## What a run does -/

/-- What a run from one version does when it ends with the database at another one, and its caller
is told the reply. -/
structure MigrationTrace.Sound (t : MigrationTrace Note) (m : Migration Note) (s : Surroundings)
    (inTransaction : Bool) (ws : Workspace Note) (start stop : Int32)
    (reply : Except StoreError Int32) : Prop where
  walk : t.walk.Sound m s inTransaction ws start stop
  /-- The finalizer is called after the last step with the version reached, unless a step fails. -/
  finalized : t.finalized.isSome
    = (m.finalize.isSome && t.walk.calls.all VersionCall.succeeded)
  called : ∀ c ∈ t.finalized, c.version = stop ∧ c.before = t.walk.after ∧ c.after = t.after ∧
    ∀ finalize ∈ m.finalize, (finalize stop).exec s t.walk.after = (c.result, t.after)
  /-- Without a call of the finalizer the steps have had the last word. -/
  uncalled : t.finalized = none → t.after = t.walk.after
  /-- The caller is told a version if neither a step nor the finalizer stands in the way. -/
  succeeds : (∃ v, reply = .ok v) ↔
    (∀ c ∈ t.walk.calls, c.succeeded = true) ∧ ∀ c ∈ t.finalized, c.panicked = false
  /-- The version told is the target, or the start if that is beyond, and is kept. -/
  told : ∀ v, reply = .ok v → v = stop ∧ v.toInt = max start.toInt m.target.toInt
  /-- Every error is told as one of the migration. -/
  failed : ∀ e, reply = .error e → ∃ detail, e = .migration detail
  after : t.after.At inTransaction stop

/-- A call succeeds or has a failure. -/
theorem VersionCall.succeeded_or (c : VersionCall Note) :
    c.succeeded = true ∨ c.succeeded = false ∧ ∃ failure, c.result = .error failure := by
  rw [succeeded]
  cases c.result with
  | ok u => exact .inl rfl
  | error failure => exact .inr ⟨rfl, failure, rfl⟩

/-- A walk has no failing call and arrives, or it has one and tells its failure. -/
theorem Walk.Sound.arrives_or_fails {walk : Walk Note} {m : Migration Note} {s : Surroundings}
    {b : Bool} {ws : Workspace Note} {start stop : Int32} (h : walk.Sound m s b ws start stop) :
    (∀ c ∈ walk.calls, c.succeeded = true) ∧ walk.result = .ok stop ∨
      ∃ c ∈ walk.calls, c.succeeded = false ∧
        ∃ failure : Failure,
          walk.result = .error (failure.told (Migration.stepError c.version)) := by
  by_cases hall : ∀ c ∈ walk.calls, c.succeeded = true
  · exact .inl ⟨hall, (h.arrives hall).1⟩
  · obtain ⟨c, hnot⟩ := Classical.not_forall.mp hall
    obtain ⟨hc, hfailed⟩ := Classical.not_imp.mp hnot
    rcases c.succeeded_or with hsucceeded | ⟨hsucceeded, failure, hfailure⟩
    · exact absurd hsucceeded hfailed
    · exact .inr ⟨c, hc, hsucceeded, failure, (h.fails c hc failure hfailure).2⟩

/-- What a step says is told as an error of the migration. -/
theorem Failure.migrationError_told (failure : Failure) (version : Int32) :
    ∃ detail, (failure.told (Migration.stepError version)).migrationError = .migration detail := by
  cases failure with
  | error e => cases e <;> exact ⟨_, rfl⟩
  | panic message => exact ⟨_, rfl⟩

namespace MigrationTrace.Sound

variable {m : Migration Note} {s : Surroundings} {b : Bool} {ws : Workspace Note}
  {start stop : Int32} {walk : Walk Note}

/-- A step has failed, and nothing follows. -/
theorem stopped (hwalk : walk.Sound m s b ws start stop) {c : VersionCall Note}
    (hc : c ∈ walk.calls) (hfailed : c.succeeded = false) (failure : Failure) (version : Int32) :
    let t : MigrationTrace Note :=
      ⟨walk, none, .error (failure.told (Migration.stepError version)), walk.after⟩
    t.Sound m s b ws start stop t.reply := by
  have hcalls : walk.calls.all VersionCall.succeeded = false :=
    List.all_eq_false.mpr ⟨c, hc, by simp [hfailed]⟩
  refine ⟨hwalk, ?_, ?_, ?_, ?_, ?_, ?_, hwalk.after⟩
  · simp [hcalls]
  · simp
  · simp
  · refine iff_of_false ?_ ?_
    · rintro ⟨v, ⟨⟩⟩
    · intro ⟨hall, _⟩
      rw [hall c hc] at hfailed
      cases hfailed
  · rintro v ⟨⟩
  · rintro e ⟨⟩
    exact failure.migrationError_told version

/-- Every step has succeeded, and there is no finalizer. -/
theorem finished (hwalk : walk.Sound m s b ws start stop)
    (hall : ∀ c ∈ walk.calls, c.succeeded = true) (hfinalize : m.finalize = none) :
    let t : MigrationTrace Note := ⟨walk, none, .ok stop, walk.after⟩
    t.Sound m s b ws start stop t.reply := by
  refine ⟨hwalk, ?_, ?_, ?_, ?_, ?_, ?_, hwalk.after⟩
  · simp [hfinalize]
  · simp
  · simp
  · simpa [MigrationTrace.reply] using hall
  · rintro v ⟨⟩
    exact ⟨rfl, (hwalk.arrives hall).2⟩
  · rintro e ⟨⟩

/-- Every step has succeeded, and the finalizer has the last word. -/
theorem closed (hwalk : walk.Sound m s b ws start stop)
    (hall : ∀ c ∈ walk.calls, c.succeeded = true) {finalize : Int32 → Job Note Unit}
    (hfinalize : m.finalize = some finalize) {result : Except Failure Unit}
    {after : Workspace Note} (hexec : (finalize stop).exec s walk.after = (result, after))
    (hafter : after.At b stop) :
    let t : MigrationTrace Note :=
      ⟨walk, some ⟨stop, walk.after, result, after⟩, Migration.finalResult stop result, after⟩
    t.Sound m s b ws start stop t.reply := by
  have hcalls : walk.calls.all VersionCall.succeeded = true := List.all_eq_true.mpr hall
  have hcalled : ∀ f ∈ m.finalize, (f stop).exec s walk.after = (result, after) := by
    intro f hf
    rw [hfinalize] at hf
    cases hf
    exact hexec
  refine ⟨hwalk, ?_, ?_, ?_, ?_, ?_, ?_, hafter⟩
  · simp [hfinalize, hcalls]
  · rintro c ⟨⟩
    exact ⟨rfl, rfl, rfl, hcalled⟩
  · simp
  · -- The caller is told the version unless the finalizer gives up.
    rcases result with (e | message) | u
    · simpa [MigrationTrace.reply, Migration.finalResult, VersionCall.panicked] using hall
    · simp [MigrationTrace.reply, Migration.finalResult, VersionCall.panicked]
    · simpa [MigrationTrace.reply, Migration.finalResult, VersionCall.panicked] using hall
  · intro v hv
    rcases result with (e | message) | u <;> cases hv <;> exact ⟨rfl, (hwalk.arrives hall).2⟩
  · intro e he
    rcases result with (e | message) | u <;> cases he
    exact ⟨_, rfl⟩

end MigrationTrace.Sound

/-- A run that begins at a version is sound. -/
theorem Migration.trace_sound {m : Migration Note} {b : Bool} (hm : m.Steady b) (s : Surroundings)
    {start : Int32} {ws : Workspace Note} (hws : ws.At b start) :
    ∃ stop, (m.trace s ws).Sound m s b ws start stop (m.trace s ws).reply := by
  obtain ⟨stop, hwalk⟩ := m.walk_sound hm s hws
  refine ⟨stop, ?_⟩
  rw [trace, exec_userVersion hws]
  rcases hwalk.arrives_or_fails with ⟨hall, hresult⟩ | ⟨c, hc, hfailed, failure, hresult⟩
  · cases hfinalize : m.finalize with
    | none =>
        simp only [hresult]
        exact .finished hwalk hall hfinalize
    | some finalize =>
        have hafter := hm.finalize finalize hfinalize stop s _ stop hwalk.after
        simp only [hresult]
        generalize hexec : (finalize stop).exec s (m.walk s start ws).after = x at hafter
        obtain ⟨r, after⟩ := x
        exact .closed hwalk hall hfinalize hexec hafter
  · simp only [hresult]
    exact .stopped hwalk hc hfailed failure c.version

/-! ## Run after run -/

namespace Migration

/-- Migrations run one after another on one workspace, whatever comes of each: what their callers
are told, and the workspace at the end. -/
def outcomes : Workspace Note → List (Surroundings × Migration Note) →
    List (Except StoreError Int32) × Workspace Note
  | ws, [] => ([], ws)
  | ws, (s, m) :: runs =>
      let (reply, after) := m.runGuarded.outcome s ws
      let (replies, last) := outcomes after runs
      (reply :: replies, last)

/-- The same runs with all their calls. -/
def traces : Workspace Note → List (Surroundings × Migration Note) → List (MigrationTrace Note)
  | _, [] => []
  | ws, (s, m) :: runs =>
      let t := m.trace s ws
      t :: traces t.after runs

end Migration

/-- Sound runs, each of which begins at the version and the workspace where the one before it has
stopped. -/
inductive MigrationHistory (inTransaction : Bool) : Workspace Note → Int32 →
    List (Surroundings × Migration Note) → List (MigrationTrace Note) →
    List (Except StoreError Int32) → Workspace Note → Int32 → Prop
  | done (ws : Workspace Note) (v : Int32) : MigrationHistory inTransaction ws v [] [] [] ws v
  | run {s : Surroundings} {m : Migration Note} {t : MigrationTrace Note}
      {reply : Except StoreError Int32} {ws last : Workspace Note} {start stop final : Int32}
      {runs : List (Surroundings × Migration Note)} {ts : List (MigrationTrace Note)}
      {replies : List (Except StoreError Int32)}
      (hrun : t.Sound m s inTransaction ws start stop reply)
      (hrest : MigrationHistory inTransaction t.after stop runs ts replies last final) :
      MigrationHistory inTransaction ws start ((s, m) :: runs) (t :: ts) (reply :: replies) last
        final

/-- The versions whose steps succeeded, in the order of the calls. -/
def stepped (ts : List (MigrationTrace Note)) : List Int :=
  ts.flatMap fun t => (t.walk.calls.filter VersionCall.succeeded).map (·.version.toInt)

/-- Over a history the steps that succeed take every version once, from the first to the last. -/
theorem MigrationHistory.stepped {b : Bool} {ws last : Workspace Note} {start final : Int32}
    {runs : List (Surroundings × Migration Note)} {ts : List (MigrationTrace Note)}
    {replies : List (Except StoreError Int32)}
    (h : MigrationHistory b ws start runs ts replies last final) :
    start.toInt ≤ final.toInt ∧
      SqlStore.stepped ts = versionsFrom start.toInt (final.toInt - start.toInt).toNat := by
  induction h with
  | done ws v =>
      constructor
      · omega
      · simp [SqlStore.stepped, versionsFrom]
  | @run s m t reply ws last start stop final runs ts replies hrun hrest ih =>
      -- The versions of the rest begin where those of this run end.
      obtain ⟨hle, hversions⟩ := hrun.walk.succeeded
      obtain ⟨hrestLe, hrestVersions⟩ := ih
      have hcount : (final.toInt - start.toInt).toNat
          = (stop.toInt - start.toInt).toNat + (final.toInt - stop.toInt).toNat := by omega
      have hstop : start.toInt + ((stop.toInt - start.toInt).toNat : Int) = stop.toInt := by omega
      refine ⟨by omega, ?_⟩
      rw [hcount, versionsFrom_add, hstop, ← hversions, ← hrestVersions]
      rfl

/-- Migrations of every kind run one after another from a version on: each run is sound and goes on
where the one before it has stopped, the database ends at a version that is not below the first one,
and the steps that succeeded have taken every version between the two once, in order. -/
theorem Migration.histories_sound {b : Bool} {ws : Workspace Note} {start : Int32}
    (hws : ws.At b start) (runs : List (Surroundings × Migration Note))
    (hsteady : ∀ run ∈ runs, run.2.Steady b) :
    ∃ final, MigrationHistory b ws start runs (traces ws runs) (outcomes ws runs).1
        (outcomes ws runs).2 final ∧
      (outcomes ws runs).2.At b final ∧ start.toInt ≤ final.toInt ∧
      stepped (traces ws runs)
        = versionsFrom start.toInt (final.toInt - start.toInt).toNat := by
  have hhistory : ∃ final, MigrationHistory b ws start runs (traces ws runs) (outcomes ws runs).1
      (outcomes ws runs).2 final ∧ (outcomes ws runs).2.At b final := by
    induction runs generalizing ws start with
    | nil => exact ⟨start, .done ws start, hws⟩
    | cons run runs ih =>
        obtain ⟨s, m⟩ := run
        obtain ⟨hm, hruns⟩ := List.forall_mem_cons.mp hsteady
        obtain ⟨stop, hrun⟩ := trace_sound hm s hws
        obtain ⟨final, hrest, hfinal⟩ := ih hrun.after hruns
        rw [traces, outcomes, outcome_runGuarded]
        exact ⟨final, .run hrun hrest, hfinal⟩
  obtain ⟨final, hhistory, hfinal⟩ := hhistory
  obtain ⟨hle, hstepped⟩ := hhistory.stepped
  exact ⟨final, hhistory, hfinal, hle, hstepped⟩

/-- Four migrations of a new database: one reaches its target, one fails on a script, the finalizer
of the third gives up, and the last one has nothing to do. -/
theorem Migration.stepped_four_runs :
    let s : Surroundings := ⟨"migration", true⟩
    let ws : Workspace Int32 := ⟨.inMemory, [], false⟩
    let failing : Migration Int32 := .new 5 fun v => do
      Job.note v
      if v = 3 then Job.ofDb (Db.execute [.unreadable "THIS IS NOT SQL;"]) else pure ()
    let runs : List (Surroundings × Migration Int32) :=
      [(s, .new 2 Job.note), (s, failing),
        (s, (Migration.new 4 Job.note).withFinalize fun _ => Job.panic none),
        (s, (Migration.new 1 fun _ => Job.fail .notOpen).withFinalize Job.note)]
    (outcomes ws runs).1 = [.ok 2,
        .error (.migration "step 3 -> 4: failed to execute statement: syntax error"),
        .error (.migration "migration panicked: non-string panic payload"), .ok 4] ∧
      stepped (traces ws runs) = [0, 1, 2, 3] := by
  intro s ws failing runs
  have hsteady : ∀ run ∈ runs, run.2.Steady false := by
    refine List.forall_mem_cons.mpr ⟨?_, List.forall_mem_cons.mpr ⟨?_, List.forall_mem_cons.mpr
      ⟨?_, List.forall_mem_singleton.mpr ?_⟩⟩⟩
    · exact steady_new 2 Job.steady_note
    · refine steady_new 5 fun v => (Job.steady_note v).bind fun _ => ?_
      by_cases hv : v = 3
      · rw [if_pos hv]
        exact Job.steady_execute (List.forall_mem_singleton.mpr rfl)
      · rw [if_neg hv]
        exact Job.steady_pure ()
    · exact (steady_new 4 Job.steady_note).withFinalize fun _ => Job.steady_panic none
    · exact (steady_new 1 fun _ => Job.steady_fail .notOpen).withFinalize Job.steady_note
  have hws : ws.At false 0 := ⟨_, rfl, rfl, rfl, rfl⟩
  obtain ⟨final, -, hfinal, -, hstepped⟩ := histories_sound hws runs hsteady
  have hfour : (outcomes ws runs).2.database.connection.map (·.content.userVersion) = some 4 := by
    decide +kernel
  rw [hfinal.eq_of_map hfour] at hstepped
  exact ⟨rfl, hstepped⟩

end SqlStore
