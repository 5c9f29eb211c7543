/-
# Nested migrations

A step may run further migrations on the database that it is given, and so may their steps.  All of
them write to the one version that the database keeps, while each goes on counting from the version
that it has read at its start.  Every step is called at the version that is kept; but a step that
runs a migration past the version after its own is followed by a write that takes the database back.

* `Plan`, `Plan.toJob` : jobs in whose course migrations are run, to any depth;
* `Plan.events` : the calls of steps and the versions written, in order;
* `VersionPath` : what the events do to the version that is kept;
* `Plan.IsModest` : no step runs a migration past the version after its own;
* `Plan.version_path` : what is true of every plan, and of those;
* `Plan.overtaken_goes_back` : a plan that is not modest.
-/
import SqlStore.Proofs.Migration.History

namespace SqlStore

variable {Note α β : Type}

/-! ## Jobs that run migrations -/

/-- The version that the open connection keeps. -/
def Workspace.version? (ws : Workspace Note) : Option Int32 :=
  ws.database.connection.map (·.content.userVersion)

/-- However the job ends, the version is as it was. -/
def Job.LeavesVersion (job : Job Note α) : Prop :=
  ∀ s ws, (job.exec s ws).2.version? = ws.version?

/-- A job in whose course migrations are run, whose steps and finalizers may do so in turn. -/
inductive Plan (Note : Type) : Type → Type 1
  /-- A job that runs no migration. -/
  | job {α : Type} (job : Job Note α) : Plan Note α
  | bind {α β : Type} (plan : Plan Note α) (next : α → Plan Note β) : Plan Note β
  | tryCatch {α : Type} (plan : Plan Note α) (handler : Failure → Plan Note α) : Plan Note α
  | withConnection {α : Type} (plan : Plan Note α) : Plan Note α
  | migrate (target : Int32) (step : Int32 → Plan Note Unit) (finalizes : Bool)
      (finalize : Int32 → Plan Note Unit) : Plan Note Int32

/-- A migration with a finalizer or without. -/
def Migration.of (target : Int32) (step : Int32 → Job Note Unit) (finalizes : Bool)
    (finalize : Int32 → Job Note Unit) : Migration Note :=
  { target, step, finalize := if finalizes then some finalize else none }

namespace Plan

/-- The job that a plan is for. -/
def toJob {α : Type} : Plan Note α → Job Note α
  | job j => j
  | bind p next => p.toJob >>= fun a => (next a).toJob
  | tryCatch p handler => MonadExcept.tryCatch p.toJob fun failure => (handler failure).toJob
  | withConnection p => p.toJob.withConnection
  | migrate target step finalizes finalize =>
      (Migration.of target (fun v => (step v).toJob) finalizes fun v => (finalize v).toJob).run

/-- A nested call of a migration that waits for it: carried out where it stands, with panics told as
errors. -/
def migrateBlocking (target : Int32) (step : Int32 → Plan Note Unit) : Plan Note Int32 :=
  tryCatch (migrate target step false step) fun
    | .error e => job (Job.fail e)
    | .panic message =>
        job (Job.fail (.migration ("migration panicked: " ++ panicMessage message)))

/-- That is the guarded run of the migration. -/
theorem toJob_migrateBlocking (target : Int32) (step : Int32 → Plan Note Unit) :
    (migrateBlocking target step).toJob
      = (Migration.new target fun v => (step v).toJob).runGuarded := by
  unfold migrateBlocking Migration.runGuarded
  rw [toJob]
  congr 1
  funext failure
  cases failure <;> rfl

end Plan

/-! ## Events -/

/-- What happens to the version of a schema. -/
inductive VersionEvent
  /-- A step is called with the version. -/
  | call (version : Int32)
  /-- The version is written. -/
  | write (version : Int32)
deriving DecidableEq

/-- The write after a call of a step, if the call has succeeded and the write does. -/
def VersionCall.writes (c : VersionCall Note) (s : Surroundings) : List VersionEvent :=
  match c.result, ((Job.ofDb (Db.setUserVersion (c.version + 1))).exec s c.after).1 with
  | .ok (), .ok () => [.write (c.version + 1)]
  | _, _ => []

/-- The events of a migration, given those of its steps and of its finalizer. -/
def Migration.events (m : Migration Note) (s : Surroundings)
    (step finalize : Int32 → Workspace Note → List VersionEvent) (ws : Workspace Note) :
    List VersionEvent :=
  let t := m.trace s ws
  (t.walk.calls.flatMap fun c => .call c.version :: step c.version c.before ++ c.writes s) ++
    t.finalized.toList.flatMap fun c => finalize c.version c.before

/-- The events after a job that has ended in one of two ways. -/
def Job.eventsAfter (job : Job Note α) (s : Surroundings)
    (succeeded : α → Workspace Note → List VersionEvent)
    (failed : Failure → Workspace Note → List VersionEvent) (ws : Workspace Note) :
    List VersionEvent :=
  match job.exec s ws with
  | (.ok a, after) => succeeded a after
  | (.error failure, after) => failed failure after

/-- The calls of steps and the versions written, in order, by migrations of all depths. -/
def Plan.events {α : Type} (s : Surroundings) : Plan Note α → Workspace Note → List VersionEvent
  | job _, _ => []
  | bind p next, ws =>
      p.events s ws ++ p.toJob.eventsAfter s (fun a => (next a).events s) (fun _ _ => []) ws
  | tryCatch p handler, ws =>
      p.events s ws ++
        p.toJob.eventsAfter s (fun _ _ => []) (fun failure => (handler failure).events s) ws
  | withConnection p, ws =>
      if ws.database.connection.isNone then []
      else p.events s { ws with database := ws.database.borrow }
  | migrate target step finalizes finalize, ws =>
      (Migration.of target (fun v => (step v).toJob) finalizes fun v => (finalize v).toJob).events s
        (fun v => (step v).events s) (fun v => (finalize v).events s) ws

/-- Events lead from one version to another: each step is called at the version that is kept, and
each write puts a version in the place of one where that is allowed. -/
inductive VersionPath (allowed : Int32 → Int32 → Prop) : Int32 → List VersionEvent → Int32 → Prop
  | done (v : Int32) : VersionPath allowed v [] v
  | call (v : Int32) {last : Int32} {events : List VersionEvent}
      (hrest : VersionPath allowed v events last) :
      VersionPath allowed v (.call v :: events) last
  | write {v next last : Int32} {events : List VersionEvent} (hallowed : allowed v next)
      (hrest : VersionPath allowed next events last) :
      VersionPath allowed v (.write next :: events) last

namespace VersionPath

variable {allowed : Int32 → Int32 → Prop} {u v w : Int32} {xs ys : List VersionEvent}

theorem append (h : VersionPath allowed u xs v) (h' : VersionPath allowed v ys w) :
    VersionPath allowed u (xs ++ ys) w := by
  induction h with
  | done v => exact h'
  | call v _ ih => exact .call v (ih h')
  | write hallowed _ ih => exact .write hallowed (ih h')

theorem of_append (h : VersionPath allowed u (xs ++ ys) w) :
    ∃ v, VersionPath allowed u xs v ∧ VersionPath allowed v ys w := by
  induction xs generalizing u with
  | nil => exact ⟨u, .done u, h⟩
  | cons x xs ih =>
      cases h with
      | call v hrest =>
          obtain ⟨v', hxs, hys⟩ := ih hrest
          exact ⟨v', .call _ hxs, hys⟩
      | write hallowed hrest =>
          obtain ⟨v', hxs, hys⟩ := ih hrest
          exact ⟨v', .write hallowed hxs, hys⟩

/-- A version that is written by nothing beyond a bound stays within it. -/
theorem last_le {bound : Int32} (h : VersionPath allowed v xs w) (hv : v ≤ bound)
    (hwrites : ∀ n, .write n ∈ xs → n ≤ bound) : w ≤ bound := by
  induction h with
  | done v => exact hv
  | call v _ ih =>
      apply ih hv
      intro n hn
      exact hwrites n (List.mem_cons_of_mem _ hn)
  | @write v next last events _ _ ih =>
      apply ih (hwrites next List.mem_cons_self)
      intro n hn
      exact hwrites n (List.mem_cons_of_mem _ hn)

end VersionPath

/-! ## The version in the course of a job -/

section

variable {s : Surroundings} {ws : Workspace Note} {v : Int32}

/-- On an open connection the version can be read. -/
theorem exec_userVersion_of_version? (h : ws.version? = some v) :
    (Job.ofDb Db.userVersion : Job Note Int32).exec s ws = (.ok v, ws) := by
  obtain ⟨⟨files, connection, borrows⟩, notes, released⟩ := ws
  obtain ⟨c, hc, rfl⟩ := Option.map_eq_some_iff.mp h
  cases hc
  rfl

/-- A version that is written is kept, and where it cannot be written the old one is. -/
theorem version?_setUserVersion (h : ws.version? = some v) (next : Int32) :
    let written := (Job.ofDb (Db.setUserVersion next) : Job Note Unit).exec s ws
    written.1 = .ok () ∧ written.2.version? = some next ∨
      (∃ failure, written.1 = .error failure) ∧ written.2.version? = some v := by
  obtain ⟨⟨files, connection, borrows⟩, notes, released⟩ := ws
  obtain ⟨⟨location, readOnly, journal, content, saved, dirty⟩, hc, rfl⟩ :=
    Option.map_eq_some_iff.mp h
  cases hc
  cases readOnly with
  | false => exact .inl ⟨rfl, rfl⟩
  | true => exact .inr ⟨⟨_, rfl⟩, rfl⟩

end

/-- The events tell what the job does to the version: they lead from the version before it to the
version after it. -/
def Job.Tracks (allowed : Int32 → Int32 → Prop) (job : Job Note α) (s : Surroundings)
    (events : Workspace Note → List VersionEvent) : Prop :=
  ∀ ws v, ws.version? = some v →
    ∃ last, (job.exec s ws).2.version? = some last ∧ VersionPath allowed v (events ws) last

section

variable {allowed : Int32 → Int32 → Prop} {s : Surroundings}

theorem Job.LeavesVersion.tracks {job : Job Note α} (h : job.LeavesVersion) :
    job.Tracks allowed s fun _ => [] := by
  intro ws v hws
  exact ⟨v, (h s ws).trans hws, .done v⟩

theorem Job.Tracks.bind {job : Job Note α} {next : α → Job Note β}
    {events : Workspace Note → List VersionEvent}
    {nextEvents : α → Workspace Note → List VersionEvent}
    (hjob : job.Tracks allowed s events) (hnext : ∀ a, (next a).Tracks allowed s (nextEvents a)) :
    (job >>= next).Tracks allowed s fun ws =>
      events ws ++ job.eventsAfter s nextEvents (fun _ _ => []) ws := by
  intro ws v hws
  obtain ⟨mid, hmid, hpath⟩ := hjob ws v hws
  unfold eventsAfter
  rw [exec_bind]
  rcases hexec : job.exec s ws with ⟨failure | a, after⟩
  all_goals
    rw [hexec] at hmid
    simp only [hexec]
  · exact ⟨mid, hmid, hpath.append (.done mid)⟩
  · obtain ⟨last, hlast, hrest⟩ := hnext a after mid hmid
    exact ⟨last, hlast, hpath.append hrest⟩

theorem Job.Tracks.tryCatch {job : Job Note α} {handler : Failure → Job Note α}
    {events : Workspace Note → List VersionEvent}
    {handlerEvents : Failure → Workspace Note → List VersionEvent}
    (hjob : job.Tracks allowed s events)
    (hhandler : ∀ failure, (handler failure).Tracks allowed s (handlerEvents failure)) :
    (MonadExcept.tryCatch job handler).Tracks allowed s fun ws =>
      events ws ++ job.eventsAfter s (fun _ _ => []) handlerEvents ws := by
  intro ws v hws
  obtain ⟨mid, hmid, hpath⟩ := hjob ws v hws
  unfold eventsAfter
  rw [exec_tryCatch]
  rcases hexec : job.exec s ws with ⟨failure | a, after⟩
  all_goals
    rw [hexec] at hmid
    simp only [hexec]
  · obtain ⟨last, hlast, hrest⟩ := hhandler failure after mid hmid
    exact ⟨last, hlast, hpath.append hrest⟩
  · exact ⟨mid, hmid, hpath.append (.done mid)⟩

/-- A body that has run while the connection was in use. -/
theorem Job.exec_withConnection {body : Job Note α} {ws : Workspace Note}
    (hopen : ws.database.connection.isNone = false) :
    let borrowed := body.exec s { ws with database := ws.database.borrow }
    body.withConnection.exec s ws
      = (borrowed.1, { borrowed.2 with database := borrowed.2.database.giveBack }) := by
  show (if ws.database.connection.isNone then _ else _) = _
  rw [hopen]
  rfl

theorem Job.Tracks.withConnection {job : Job Note α} {events : Workspace Note → List VersionEvent}
    (hjob : job.Tracks allowed s events) :
    job.withConnection.Tracks allowed s fun ws =>
      if ws.database.connection.isNone then []
      else events { ws with database := ws.database.borrow } := by
  intro ws v hws
  obtain ⟨c, hc, -⟩ := Option.map_eq_some_iff.mp hws
  have hopen : ws.database.connection.isNone = false := by
    rw [hc]
    rfl
  obtain ⟨last, hlast, hpath⟩ := hjob { ws with database := ws.database.borrow } v hws
  rw [exec_withConnection hopen]
  refine ⟨last, hlast, ?_⟩
  simp only [hopen]
  exact hpath

/-- The walk of a migration leads from the version that it begins at to the one that it tells. -/
theorem Migration.walk_path {m : Migration Note} {step : Int32 → Workspace Note → List VersionEvent}
    (hstep : ∀ v, v < m.target → ∀ ws, ws.version? = some v →
      ∃ last, ((m.step v).exec s ws).2.version? = some last ∧
        VersionPath allowed v (step v ws) last ∧ allowed last (v + 1))
    {version : Int32} {ws : Workspace Note} (hws : ws.version? = some version) :
    ∃ last, (m.walk s version ws).after.version? = some last ∧
      VersionPath allowed version ((m.walk s version ws).calls.flatMap fun c =>
        .call c.version :: step c.version c.before ++ c.writes s) last ∧
      ∀ reached, (m.walk s version ws).result = .ok reached → reached = last := by
  -- The invariant of the loop: the database is at the version that the walk is at.
  fun_induction Migration.walk m s version ws with
  | case1 version ws h failure after hexec =>
      obtain ⟨last, hlast, hpath, -⟩ := hstep version h ws hws
      rw [hexec] at hlast
      refine ⟨last, hlast, ?_, ?_⟩
      · simpa [VersionCall.writes] using VersionPath.call version hpath
      · rintro reached ⟨⟩
  | case2 version ws h after hexec failure kept hset =>
      obtain ⟨mid, hmid, hpath, -⟩ := hstep version h ws hws
      rw [hexec] at hmid
      have hkept := version?_setUserVersion (s := s) hmid (version + 1)
      rw [hset] at hkept
      rcases hkept with ⟨hok, -⟩ | ⟨-, hkept⟩
      · cases hok
      · refine ⟨mid, hkept, ?_, ?_⟩
        · simpa [VersionCall.writes, hset] using VersionPath.call version hpath
        · rintro reached ⟨⟩
  | case3 version ws h after hexec kept hset rest ih =>
      obtain ⟨mid, hmid, hpath, hallowed⟩ := hstep version h ws hws
      rw [hexec] at hmid
      have hkept := version?_setUserVersion (s := s) hmid (version + 1)
      rw [hset] at hkept
      rcases hkept with ⟨-, hkept⟩ | ⟨⟨failure, hfailed⟩, -⟩
      · obtain ⟨last, hlast, hrest, hreached⟩ := ih hkept
        refine ⟨last, hlast, ?_, hreached⟩
        have hwhole := VersionPath.call version (hpath.append (.write hallowed hrest))
        simpa [VersionCall.writes, hset] using hwhole
      · cases hfailed
  | case4 version ws h =>
      refine ⟨version, hws, .done version, ?_⟩
      rintro reached ⟨⟩
      rfl

/-- A migration leads from the version that it reads to the one after its finalizer. -/
theorem Migration.tracks_run {m : Migration Note}
    {step finalize : Int32 → Workspace Note → List VersionEvent}
    (hstep : ∀ v, v < m.target → ∀ ws, ws.version? = some v →
      ∃ last, ((m.step v).exec s ws).2.version? = some last ∧
        VersionPath allowed v (step v ws) last ∧ allowed last (v + 1))
    (hfinalize : ∀ f ∈ m.finalize, ∀ v, (f v).Tracks allowed s (finalize v)) :
    m.run.Tracks allowed s (m.events s step finalize) := by
  intro ws v hws
  obtain ⟨mid, hmid, hpath, hreached⟩ := m.walk_path hstep hws
  rw [exec_run]
  unfold events trace
  rw [exec_userVersion_of_version? hws]
  rcases hresult : (m.walk s v ws).result with failure | reached
  · refine ⟨mid, ?_, ?_⟩
    · simpa [hresult] using hmid
    · simpa [hresult] using hpath
  · obtain rfl := hreached reached hresult
    rcases hm : m.finalize with _ | f
    · refine ⟨reached, ?_, ?_⟩
      · simpa [hresult, hm] using hmid
      · simpa [hresult, hm] using hpath
    · obtain ⟨last, hlast, hrest⟩ := hfinalize f hm reached _ reached hmid
      refine ⟨last, ?_, ?_⟩
      · simpa [hresult, hm] using hlast
      · simpa [hresult, hm] using hpath.append hrest

end

section

variable {s : Surroundings} {n : Int32}

/-- Nothing but the version after that of the call is written after it. -/
theorem VersionCall.eq_of_mem_writes {c : VersionCall Note} (h : .write n ∈ c.writes s) :
    n = c.version + 1 := by
  unfold VersionCall.writes at h
  split at h
  · cases List.mem_singleton.mp h
    rfl
  · cases h

/-- Steps are called below the target only. -/
theorem Migration.version_lt_of_mem_walk {m : Migration Note} {version : Int32}
    {ws : Workspace Note} {c : VersionCall Note} (h : c ∈ (m.walk s version ws).calls) :
    c.version < m.target := by
  fun_induction Migration.walk m s version ws with
  | case1 version ws hlt | case2 version ws hlt =>
      cases List.mem_singleton.mp h
      exact hlt
  | case3 version ws hlt after hexec kept hset rest ih =>
      rcases List.mem_cons.mp h with rfl | h
      · exact hlt
      · exact ih h
  | case4 => cases h

/-- What a run has called are steps below the target, and its finalizer. -/
theorem Migration.trace_called (m : Migration Note) (ws : Workspace Note) :
    (∀ c ∈ (m.trace s ws).walk.calls, c.version < m.target) ∧
      ((m.trace s ws).finalized.isSome → m.finalize.isSome) := by
  unfold trace
  rcases (Job.ofDb Db.userVersion : Job Note Int32).exec s ws with ⟨failure | start, read⟩
  · exact ⟨by simp, by simp⟩
  · have hcalls : ∀ c ∈ (m.walk s start read).calls, c.version < m.target := by
      intro c hc
      exact version_lt_of_mem_walk hc
    rcases hresult : (m.walk s start read).result with failure | reached
    · exact ⟨by simpa [hresult] using hcalls, by simp [hresult]⟩
    · rcases hm : m.finalize with _ | finalize
      · exact ⟨by simpa [hresult] using hcalls, by simp [hresult]⟩
      · exact ⟨by simpa [hresult] using hcalls, by simp⟩

/-- A version that a migration writes is written by a step of its own, or by what its steps and its
finalizer run. -/
theorem Migration.of_mem_events {m : Migration Note}
    {step finalize : Int32 → Workspace Note → List VersionEvent} {ws : Workspace Note}
    (h : .write n ∈ m.events s step finalize ws) :
    (∃ v, v < m.target ∧ (n = v + 1 ∨ ∃ ws, .write n ∈ step v ws)) ∨
      m.finalize.isSome ∧ ∃ v ws, .write n ∈ finalize v ws := by
  obtain ⟨hcalls, hfinalized⟩ := m.trace_called (s := s) ws
  rcases List.mem_append.mp h with h | h
  · obtain ⟨c, hc, h⟩ := List.mem_flatMap.mp h
    refine .inl ⟨c.version, hcalls c hc, ?_⟩
    rcases List.mem_cons.mp h with h | h
    · cases h
    · rcases List.mem_append.mp h with h | h
      · exact .inr ⟨c.before, h⟩
      · exact .inl (VersionCall.eq_of_mem_writes h)
  · obtain ⟨c, hc, h⟩ := List.mem_flatMap.mp h
    refine .inr ⟨hfinalized ?_, c.version, c.before, h⟩
    rw [Option.mem_toList] at hc
    rw [hc]
    rfl

end

/-! ## Plans -/

namespace Plan

/-- The version is written by migrations only. -/
def LeavesVersion {α : Type} : Plan Note α → Prop
  | job j => j.LeavesVersion
  | bind p next => p.LeavesVersion ∧ ∀ a, (next a).LeavesVersion
  | tryCatch p handler => p.LeavesVersion ∧ ∀ failure, (handler failure).LeavesVersion
  | withConnection p => p.LeavesVersion
  | migrate _ step finalizes finalize =>
      (∀ v, (step v).LeavesVersion) ∧ (finalizes = true → ∀ v, (finalize v).LeavesVersion)

/-- No migration, however deep, has a target beyond a version. -/
def IsUpTo {α : Type} (bound : Int32) : Plan Note α → Prop
  | job _ => True
  | bind p next => p.IsUpTo bound ∧ ∀ a, (next a).IsUpTo bound
  | tryCatch p handler => p.IsUpTo bound ∧ ∀ failure, (handler failure).IsUpTo bound
  | withConnection p => p.IsUpTo bound
  | migrate target step finalizes finalize =>
      target ≤ bound ∧ (∀ v, v < target → (step v).IsUpTo bound) ∧
        (finalizes = true → ∀ v, (finalize v).IsUpTo bound)

/-- No step, of whichever migration, runs a migration to a target beyond the version that the step
leads to. -/
def IsModest {α : Type} : Plan Note α → Prop
  | job _ => True
  | bind p next => p.IsModest ∧ ∀ a, (next a).IsModest
  | tryCatch p handler => p.IsModest ∧ ∀ failure, (handler failure).IsModest
  | withConnection p => p.IsModest
  | migrate target step finalizes finalize =>
      (∀ v, v < target → (step v).IsUpTo (v + 1) ∧ (step v).IsModest) ∧
        (finalizes = true → ∀ v, (finalize v).IsModest)

variable {s : Surroundings} {bound n : Int32} {allowed : Int32 → Int32 → Prop}

/-- No version is written beyond all targets. -/
theorem write_le {p : Plan Note α} (h : p.IsUpTo bound) {ws : Workspace Note}
    (hwrite : .write n ∈ p.events s ws) : n ≤ bound := by
  induction p generalizing ws with
  | job j => cases hwrite
  | bind p next ih ihNext =>
      rw [events] at hwrite
      rcases List.mem_append.mp hwrite with hwrite | hwrite
      · exact ih h.1 hwrite
      · unfold Job.eventsAfter at hwrite
        split at hwrite
        · exact ihNext _ (h.2 _) hwrite
        · cases hwrite
  | tryCatch p handler ih ihHandler =>
      rw [events] at hwrite
      rcases List.mem_append.mp hwrite with hwrite | hwrite
      · exact ih h.1 hwrite
      · unfold Job.eventsAfter at hwrite
        split at hwrite
        · cases hwrite
        · exact ihHandler _ (h.2 _) hwrite
  | withConnection p ih =>
      unfold events at hwrite
      split at hwrite
      · cases hwrite
      · exact ih h hwrite
  | migrate target step finalizes finalize ihStep ihFinalize =>
      obtain ⟨htarget, hstep, hfinalize⟩ := h
      rcases Migration.of_mem_events hwrite with
        ⟨v, hv, rfl | ⟨ws, hwrite⟩⟩ | ⟨hsome, v, ws, hwrite⟩
      · have hbelow : v < target := hv
        have hnext := toInt_next hbelow
        rw [Int32.lt_iff_toInt_lt] at hbelow
        rw [Int32.le_iff_toInt_le] at htarget ⊢
        omega
      · exact ihStep v (hstep v hv) hwrite
      · apply ihFinalize v (hfinalize ?_ v) hwrite
        by_cases hfinalizes : finalizes = true
        · exact hfinalizes
        · simp [Migration.of, hfinalizes] at hsome

/-- A plan leads from one version to another by writes that are allowed, if whatever does not go
back is allowed, and anything is allowed where the plan is not modest. -/
theorem tracks {p : Plan Note α} (h : p.LeavesVersion)
    (hallowed : ∀ old new, (p.IsModest → old ≤ new) → allowed old new) (s : Surroundings) :
    p.toJob.Tracks allowed s (p.events s) := by
  induction p with
  | job j => exact Job.LeavesVersion.tracks h
  | bind p next ih ihNext =>
      apply Job.Tracks.bind
      · exact ih h.1 fun old new hle => hallowed old new fun hp => hle hp.1
      · exact fun a => ihNext a (h.2 a) fun old new hle =>
          hallowed old new fun hp => hle (hp.2 a)
  | tryCatch p handler ih ihHandler =>
      apply Job.Tracks.tryCatch
      · exact ih h.1 fun old new hle => hallowed old new fun hp => hle hp.1
      · exact fun f => ihHandler f (h.2 f) fun old new hle =>
          hallowed old new fun hp => hle (hp.2 f)
  | withConnection p ih => exact (ih h hallowed).withConnection
  | migrate target step finalizes finalize ihStep ihFinalize =>
      apply Migration.tracks_run
      · intro v hv ws hws
        have hstep := ihStep v (h.1 v) fun old new hle =>
          hallowed old new fun hp => hle (hp.1 v hv).2
        obtain ⟨last, hlast, hpath⟩ := hstep ws v hws
        refine ⟨last, hlast, hpath, hallowed last (v + 1) fun hp => ?_⟩
        -- What a modest step has run stays within the version that is written next.
        have hnext : v ≤ v + 1 := by
          rw [Int32.le_iff_toInt_le, toInt_next hv]
          omega
        exact hpath.last_le hnext fun n => write_le (hp.1 v hv).1
      · intro f hf v
        by_cases hfinalizes : finalizes = true
        · simp only [Migration.of, hfinalizes, if_true, Option.mem_some_iff] at hf
          subst hf
          exact ihFinalize v (h.2 hfinalizes v) fun old new hle =>
            hallowed old new fun hp => hle (hp.2 hfinalizes v)
        · simp [Migration.of, hfinalizes] at hf

/-- Whatever the targets of the migrations, every step is called at the version that is kept.  If no
step runs a migration beyond the version that the step leads to, no write takes the version back. -/
theorem version_path {p : Plan Note α} (h : p.LeavesVersion) (s : Surroundings)
    {ws : Workspace Note} {v : Int32} (hws : ws.version? = some v) :
    ∃ last, (p.toJob.exec s ws).2.version? = some last ∧
      VersionPath (fun _ _ => True) v (p.events s ws) last ∧
      (p.IsModest → VersionPath (· ≤ ·) v (p.events s ws) last) := by
  obtain ⟨last, hlast, hpath⟩ := tracks h (fun _ _ _ => trivial) s ws v hws
  refine ⟨last, hlast, hpath, fun hp => ?_⟩
  obtain ⟨last', hlast', hpath'⟩ := tracks h (fun old new hle => hle hp) s ws v hws
  rw [hlast] at hlast'
  cases hlast'
  exact hpath'

/-- A migration to 2 whose first step runs another migration. -/
def overtaken (target : Int32) : Plan Unit Int32 :=
  let idle : Int32 → Plan Unit Unit := fun _ => job (pure ())
  let first : Plan Unit Unit := (migrateBlocking target idle).bind fun _ => job (pure ())
  migrate 2 (fun v => if v = 0 then first else job (pure ())) false idle

/-- As a job it is a migration whose first step calls another one and waits for it. -/
theorem toJob_overtaken (target : Int32) :
    (overtaken target).toJob
      = (Migration.new 2 fun v =>
          if v = 0 then discard (Migration.new target fun _ => pure ()).runGuarded
          else pure ()).run := by
  have hstep (v : Int32) :
      (if v = 0 then (migrateBlocking target fun _ => job (pure ())).bind fun _ => job (pure ())
        else job (pure ()) : Plan Unit Unit).toJob
        = if v = 0 then discard (Migration.new target fun _ => pure ()).runGuarded
          else pure () := by
    by_cases hv : v = 0
    · simp only [hv, if_true]
      show (migrateBlocking target fun _ => job (pure ())).toJob >>= (fun _ => pure ()) = _
      rw [toJob_migrateBlocking]
      rfl
    · simp only [hv, if_false]
      rfl
  show (Migration.of 2 _ false _).run = _
  simp only [hstep]
  rfl

theorem leavesVersion_overtaken (target : Int32) : (overtaken target).LeavesVersion := by
  have hidle : (job (pure ()) : Plan Unit Unit).LeavesVersion := fun _ _ => rfl
  constructor
  · intro v
    by_cases hv : v = 0
    · simp only [hv, if_true]
      refine ⟨⟨⟨fun _ => hidle, ?_⟩, ?_⟩, fun _ => hidle⟩
      · rintro ⟨⟩
      · rintro (e | message) s ws <;> rfl
    · simp only [hv, if_false]
      exact hidle
  · rintro ⟨⟩

/-- If the first step takes the database to 5, the migration takes it back to 1. -/
theorem overtaken_goes_back :
    let s : Surroundings := ⟨"migration", true⟩
    let ws : Workspace Unit := ⟨.inMemory, [], false⟩
    ws.version? = some 0 ∧ (overtaken 5).LeavesVersion ∧
      ∀ last, ¬ VersionPath (· ≤ ·) 0 ((overtaken 5).events s ws) last := by
  intro s ws
  refine ⟨rfl, leavesVersion_overtaken 5, fun last hpath => ?_⟩
  have hevents : (overtaken 5).events s ws
      = [.call 0, .call 0, .write 1, .call 1, .write 2, .call 2, .write 3, .call 3, .write 4] ++
        [.call 4, .write 5, .write 1, .call 1, .write 2] := by
    decide +kernel
  rw [hevents] at hpath
  obtain ⟨v, -, hrest⟩ := hpath.of_append
  -- The write of 1 stands right after that of 5.
  cases hrest with
  | call _ hrest =>
      cases hrest with
      | write _ hrest =>
          cases hrest with
          | write hback => exact absurd hback (by decide)

/-- If it takes the database to 1 only, every write of the migration goes on from the one before. -/
theorem overtaken_one_rises :
    let s : Surroundings := ⟨"migration", true⟩
    let ws : Workspace Unit := ⟨.inMemory, [], false⟩
    (overtaken 1).events s ws = [.call 0, .call 0, .write 1, .write 1, .call 1, .write 2] ∧
      VersionPath (· ≤ ·) 0 ((overtaken 1).events s ws) 2 := by
  intro s ws
  have hmodest : (overtaken 1).IsModest := by
    constructor
    · intro v hv
      by_cases hzero : v = 0
      · simp only [hzero, if_true]
        refine ⟨⟨⟨⟨by decide, fun _ _ => trivial, ?_⟩, ?_⟩, fun _ => trivial⟩,
          ⟨⟨fun _ _ => ⟨trivial, trivial⟩, ?_⟩, ?_⟩, fun _ => trivial⟩
        · rintro ⟨⟩
        · rintro (e | message) <;> trivial
        · rintro ⟨⟩
        · rintro (e | message) <;> trivial
      · simp only [hzero, if_false]
        exact ⟨trivial, trivial⟩
    · rintro ⟨⟩
  have hws : ws.version? = some 0 := rfl
  obtain ⟨last, hlast, -, hrises⟩ := version_path (leavesVersion_overtaken 1) s hws
  have htwo : ((overtaken 1).toJob.exec s ws).2.version? = some 2 := by
    decide +kernel
  rw [hlast] at htwo
  cases htwo
  exact ⟨by decide +kernel, hrises hmodest⟩

end Plan

end SqlStore
