/-
# The walk of a migration

A migration walks from the version of the database to its target.  The walk is written down as it
goes: every call of a step with its version, with the workspace before and after it, and with what
came of it.  While steps leave the version to the migration, the version that the walk is at and the
version that the database keeps are the same at every call.

* `Migration.walk`, `Migration.exec_advance` : the loop, and that the migration is this loop;
* `Walk.Sound`, `Migration.walk_sound` : what is called, in which order, and how it ends.
-/
import SqlStore.Proofs.Migration.Steady

namespace SqlStore

variable {Note α : Type}

/-! ## The walk -/

/-- The version after one that is below another one; no version is skipped by an overflow. -/
theorem toInt_next {v target : Int32} (h : v < target) : (v + 1).toInt = v.toInt + 1 := by
  rw [Int32.lt_iff_toInt_lt] at h
  have hmax := target.toInt_le
  have hmin := v.le_toInt
  have hone : (1 : Int32).toInt = 1 := rfl
  have hlimit : Int32.maxValue.toInt = 2147483647 := rfl
  have hlow : Int32.minValue.toInt = -2147483648 := rfl
  rw [Int32.toInt_add, hone]
  apply Int.bmod_eq_of_le <;> omega

/-- One step brings the target nearer by one. -/
theorem count_next {v target : Int32} (h : v < target) :
    (target.toInt - v.toInt).toNat = (target.toInt - (v + 1).toInt).toNat + 1 := by
  have hnext := toInt_next h
  rw [Int32.lt_iff_toInt_lt] at h
  omega

/-- A failure whose error is told in other words. -/
def Failure.told (tell : StoreError → StoreError) : Failure → Failure
  | error e => error (tell e)
  | panic message => panic message

/-- A call of a step or of a finalizer: its argument, the workspace before and after it, and what
came of it. -/
structure VersionCall (Note : Type) where
  version : Int32
  before : Workspace Note
  result : Except Failure Unit
  after : Workspace Note

/-- Whether the call has succeeded. -/
def VersionCall.succeeded (c : VersionCall Note) : Bool :=
  match c.result with
  | .ok () => true
  | .error _ => false

/-- The calls of the steps in order, and how the walk ended. -/
structure Walk (Note : Type) where
  calls : List (VersionCall Note)
  result : Except Failure Int32
  after : Workspace Note

namespace Migration

variable (m : Migration Note) (s : Surroundings)

theorem exec_rephrase (tell : StoreError → StoreError) (job : Job Note α) (ws : Workspace Note) :
    (rephrase tell job).exec s ws = match job.exec s ws with
      | (.ok a, after) => (.ok a, after)
      | (.error failure, after) => (.error (failure.told tell), after) := by
  rw [rephrase, Job.exec_tryCatch]
  obtain ⟨r, after⟩ := job.exec s ws
  cases r with
  | ok a => rfl
  | error failure => cases failure <;> rfl

/-- Takes one step after another from a version on, as long as the version is below the target. -/
def walk (version : Int32) (ws : Workspace Note) : Walk Note :=
  if version < m.target then
    match (m.step version).exec s ws with
    | (.error failure, after) =>
        { calls := [⟨version, ws, .error failure, after⟩]
          result := .error (failure.told (stepError version)), after }
    | (.ok (), after) =>
        match (Job.ofDb (Db.setUserVersion (version + 1))).exec s after with
        | (.error failure, kept) =>
            { calls := [⟨version, ws, .ok (), after⟩]
              result := .error (failure.told (persistError (version + 1))), after := kept }
        | (.ok (), kept) =>
            let rest := walk (version + 1) kept
            { rest with calls := ⟨version, ws, .ok (), after⟩ :: rest.calls }
  else { calls := [], result := .ok version, after := ws }
termination_by (m.target.toInt - version.toInt).toNat
decreasing_by
  rename_i h
  have hcount := count_next h
  omega

/-- The steps of a migration are this walk. -/
theorem exec_advance (version : Int32) (ws : Workspace Note) :
    (m.advance (m.target.toInt - version.toInt).toNat version).exec s ws
      = ((m.walk s version ws).result, (m.walk s version ws).after) := by
  fun_induction walk with
  | case1 version ws h failure after hstep =>
      rw [count_next h, advance, Job.exec_bind, exec_rephrase, hstep]
  | case2 version ws h after hstep failure kept hset =>
      rw [count_next h, advance, Job.exec_bind, exec_rephrase, hstep]
      simp only [Job.exec_bind, exec_rephrase, hset]
  | case3 version ws h after hstep kept hset rest ih =>
      rw [count_next h, advance, Job.exec_bind, exec_rephrase, hstep]
      simp only [Job.exec_bind, exec_rephrase, hset]
      exact ih
  | case4 version ws h =>
      have hcount : (m.target.toInt - version.toInt).toNat = 0 := by
        rw [Int32.lt_iff_toInt_lt] at h
        omega
      rw [hcount]
      rfl

end Migration

/-! ## What a walk does -/

/-- So many consecutive versions from one on. -/
def versionsFrom (first : Int) : Nat → List Int
  | 0 => []
  | count + 1 => first :: versionsFrom (first + 1) count

theorem versionsFrom_add (first : Int) (m n : Nat) :
    versionsFrom first (m + n) = versionsFrom first m ++ versionsFrom (first + m) n := by
  induction m generalizing first with
  | zero => simp [versionsFrom]
  | succ m ih =>
      have hnext : first + 1 + (m : Int) = first + (m + 1 : Nat) := by omega
      rw [Nat.succ_add, versionsFrom, versionsFrom, List.cons_append, ih, hnext]

/-- The calls lead from one workspace to another: after a call that succeeds the next version is
kept, and the next call finds what that has left; a call that fails is the last one. -/
inductive VersionCall.Leads (s : Surroundings) :
    Workspace Note → List (VersionCall Note) → Workspace Note → Prop
  | done (ws : Workspace Note) : Leads s ws [] ws
  | failed (c : VersionCall Note) (failure : Failure) (hfailed : c.result = .error failure) :
      Leads s c.before [c] c.after
  | kept (c : VersionCall Note) (calls : List (VersionCall Note)) (next after : Workspace Note)
      (hresult : c.result = .ok ())
      (hkept : (Job.ofDb (Db.setUserVersion (c.version + 1))).exec s c.after = (.ok (), next))
      (hrest : Leads s next calls after) : Leads s c.before (c :: calls) after

/-- What a walk from one version does when it ends with the database at another one. -/
structure Walk.Sound (walk : Walk Note) (m : Migration Note) (s : Surroundings)
    (inTransaction : Bool) (ws : Workspace Note) (start stop : Int32) : Prop where
  /-- Every call is a call of the step. -/
  made : ∀ c ∈ walk.calls, (m.step c.version).exec s c.before = (c.result, c.after)
  /-- Nothing but the calls and the versions kept changes the workspace. -/
  leads : VersionCall.Leads s ws walk.calls walk.after
  /-- The versions are those from the start on, in order. -/
  versions : walk.calls.map (·.version.toInt) = versionsFrom start.toInt walk.calls.length
  /-- The step is called below the target only. -/
  below : ∀ c ∈ walk.calls, c.version < m.target
  /-- At each call the database keeps the version that is the argument. -/
  kept : ∀ c ∈ walk.calls, c.before.At inTransaction c.version
  /-- Only the last call can fail. -/
  stops : ∀ c ∈ walk.calls.dropLast, c.succeeded = true
  /-- The versions of the steps that succeeded lead from the start to where the database is. -/
  succeeded : start.toInt ≤ stop.toInt ∧
    (walk.calls.filter VersionCall.succeeded).map (·.version.toInt)
      = versionsFrom start.toInt (stop.toInt - start.toInt).toNat
  after : walk.after.At inTransaction stop
  /-- If every call succeeds, the target is reached, or was behind the start. -/
  arrives : (∀ c ∈ walk.calls, c.succeeded = true) →
    walk.result = .ok stop ∧ stop.toInt = max start.toInt m.target.toInt
  /-- A call that fails leaves the database at its version, and the walk tells its failure. -/
  fails : ∀ c ∈ walk.calls, ∀ failure, c.result = .error failure →
    stop = c.version ∧ walk.result = .error (failure.told (Migration.stepError c.version))

namespace Walk.Sound

variable {m : Migration Note} {s : Surroundings} {b : Bool} {version stop : Int32}
  {ws after kept : Workspace Note}

/-- At the target or beyond nothing is called. -/
theorem done (hws : ws.At b version) (h : ¬ version < m.target) :
    Sound ⟨[], .ok version, ws⟩ m s b ws version version := by
  refine ⟨?_, .done ws, rfl, ?_, ?_, ?_, ?_, hws, ?_, ?_⟩
  · simp
  · simp
  · simp
  · simp
  · simp [versionsFrom]
  · intro _
    refine ⟨rfl, ?_⟩
    rw [Int32.lt_iff_toInt_lt] at h
    omega
  · simp

/-- A step that fails is the last one. -/
theorem failed {failure : Failure} (hws : ws.At b version) (h : version < m.target)
    (hstep : (m.step version).exec s ws = (.error failure, after)) (hafter : after.At b version) :
    Sound ⟨[⟨version, ws, .error failure, after⟩],
      .error (failure.told (Migration.stepError version)), after⟩ m s b ws version version := by
  have hleads := VersionCall.Leads.failed (s := s) ⟨version, ws, .error failure, after⟩ failure rfl
  refine ⟨?_, hleads, ?_, ?_, ?_, ?_, ?_, hafter, ?_, ?_⟩
  · simpa using hstep
  · rfl
  · simpa using h
  · simpa using hws
  · simp
  · simp [VersionCall.succeeded, versionsFrom]
  · intro hall
    have hfirst := hall _ List.mem_cons_self
    cases hfirst
  · rintro c hc failure hfailed
    rw [List.mem_singleton] at hc
    subst hc
    cases hfailed
    exact ⟨rfl, rfl⟩

/-- After a step that succeeds the walk goes on from the next version, which is kept. -/
theorem cons {rest : Walk Note} (hws : ws.At b version) (h : version < m.target)
    (hstep : (m.step version).exec s ws = (.ok (), after))
    (hset : (Job.ofDb (Db.setUserVersion (version + 1))).exec s after = (.ok (), kept))
    (hrest : rest.Sound m s b kept (version + 1) stop) :
    Sound { rest with calls := ⟨version, ws, .ok (), after⟩ :: rest.calls } m s b ws version
      stop := by
  have hnext := toInt_next h
  have hleads := VersionCall.Leads.kept ⟨version, ws, .ok (), after⟩ _ kept _ rfl hset hrest.leads
  refine ⟨?_, hleads, ?_, ?_, ?_, ?_, ?_, hrest.after, ?_, ?_⟩
  · exact List.forall_mem_cons.mpr ⟨hstep, hrest.made⟩
  · rw [List.map_cons, hrest.versions, hnext]
    rfl
  · exact List.forall_mem_cons.mpr ⟨h, hrest.below⟩
  · exact List.forall_mem_cons.mpr ⟨hws, hrest.kept⟩
  · have hstops := hrest.stops
    cases hcalls : rest.calls with
    | nil => simp
    | cons d ds =>
        rw [hcalls] at hstops
        exact List.forall_mem_cons.mpr ⟨rfl, hstops⟩
  · obtain ⟨hle, hversions⟩ := hrest.succeeded
    have hcount : (stop.toInt - version.toInt).toNat
        = (stop.toInt - (version + 1).toInt).toNat + 1 := by omega
    refine ⟨by omega, ?_⟩
    rw [List.filter_cons_of_pos rfl, List.map_cons, hversions, hcount, versionsFrom, hnext]
  · intro hall
    obtain ⟨hresult, hstop⟩ := hrest.arrives (List.forall_mem_cons.mp hall).2
    refine ⟨hresult, ?_⟩
    rw [Int32.lt_iff_toInt_lt] at h
    omega
  · rintro c hc failure hfailed
    rcases List.mem_cons.mp hc with rfl | hc
    · cases hfailed
    · exact hrest.fails c hc failure hfailed

end Walk.Sound

/-- A walk that begins at the version of the database is sound. -/
theorem Migration.walk_sound {m : Migration Note} {b : Bool} (hm : m.Steady b) (s : Surroundings)
    {version : Int32} {ws : Workspace Note} (hws : ws.At b version) :
    ∃ stop, (m.walk s version ws).Sound m s b ws version stop := by
  -- The invariant of the loop: the database is at the version that the walk is at.
  fun_induction Migration.walk m s version ws with
  | case1 version ws h failure after hstep =>
      have hafter := hm.step version s ws version hws
      rw [hstep] at hafter
      exact ⟨version, .failed hws h hstep hafter⟩
  | case2 version ws h after hstep failure kept hset =>
      have hafter := hm.step version s ws version hws
      rw [hstep] at hafter
      -- This case cannot be: on a writable connection the version can be kept.
      obtain ⟨kept', hset', -⟩ := exec_setUserVersion hafter s (version + 1)
      rw [hset] at hset'
      cases hset'
  | case3 version ws h after hstep kept hset rest ih =>
      have hafter := hm.step version s ws version hws
      rw [hstep] at hafter
      obtain ⟨kept', hset', hkept⟩ := exec_setUserVersion hafter s (version + 1)
      rw [hset] at hset'
      cases hset'
      obtain ⟨stop, hrest⟩ := ih hkept
      exact ⟨stop, .cons hws h hstep hset hrest⟩
  | case4 version ws h => exact ⟨version, .done hws h⟩

end SqlStore
