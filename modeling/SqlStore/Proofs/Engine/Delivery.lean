/-
# Results and where they go

When an access ends, its result goes to one place: the caller that waits for it, the completion of
the job, or the completion of the migration.  A panic is a result like any other.  It is told to
whoever made the request, nobody else goes on because of it, and the lane that caught it is free
again.

* `Access.Panics`, `Access.panicReply` : an access that gives up, and what is told of it;
* `Engine.HandsOn` : what becomes of the result of an access;
* `Engine.Turn.handsOn` : every access that ends hands its result on;
* `Engine.Delivers`, `Engine.Run.delivered` : no run loses or doubles a request or a reply.
-/
import SqlStore.Proofs.Engine.Linearization
import SqlStore.Proofs.Engine.Reply
import SqlStore.Proofs.Migration.History

namespace SqlStore

variable {Note : Type}

/-! ## Panics -/

/-- The calls of a run of a migration: those of the steps in order, and the one of the finalizer. -/
def MigrationTrace.calls (t : MigrationTrace Note) : List (VersionCall Note) :=
  t.walk.calls ++ t.finalized.toList

namespace Migration

variable {m : Migration Note} {s : Surroundings} {ws : Workspace Note} {c : VersionCall Note}
  {message : Option String}

/-- A walk in which a step gives up ends with the panic. -/
theorem walk_panicked {version : Int32} (hc : c ∈ (m.walk s version ws).calls)
    (hpanic : c.result = .error (.panic message)) :
    (m.walk s version ws).result = .error (.panic message) := by
  fun_induction Migration.walk m s version ws with
  | case1 version ws hlt failure =>
      cases List.mem_singleton.mp hc
      cases hpanic
      rfl
  | case2 =>
      cases List.mem_singleton.mp hc
      cases hpanic
  | case3 version ws hlt after hexec kept hset rest ih =>
      rcases List.mem_cons.mp hc with rfl | hc
      · cases hpanic
      · exact ih hc
  | case4 => cases hc

/-- A run in which a step or the finalizer gives up ends with the panic. -/
theorem trace_panicked (hpanic : c.result = .error (.panic message)) :
    (c ∈ (m.trace s ws).walk.calls → (m.trace s ws).result = .error (.panic message)) ∧
      (c ∈ (m.trace s ws).finalized → (m.trace s ws).result = .error (.panic message)) := by
  unfold trace
  rcases (Job.ofDb Db.userVersion : Job Note Int32).exec s ws with ⟨failure | start, read⟩
  · exact ⟨by simp, by simp⟩
  · have hsteps : c ∈ (m.walk s start read).calls →
        (m.walk s start read).result = .error (.panic message) :=
      fun hc => walk_panicked hc hpanic
    rcases hresult : (m.walk s start read).result with failure | reached
    · rw [hresult] at hsteps
      exact ⟨by simpa [hresult] using hsteps, by simp [hresult]⟩
    · -- The finalizer is called only if no step has given up.
      have hnone : c ∉ (m.walk s start read).calls := by
        intro hc
        rw [hsteps hc] at hresult
        cases hresult
      rcases hfinalize : m.finalize with _ | finalize
      · exact ⟨by simp [hresult, hnone], by simp [hresult]⟩
      · refine ⟨by simp [hresult, hnone], ?_⟩
        simp only [hresult]
        rintro ⟨⟩
        exact congrArg (finalResult reached) hpanic

/-- A migration tells the panic of a step or of its finalizer as an error of its own. -/
theorem reply_panicked (hc : c ∈ (m.trace s ws).calls)
    (hpanic : c.result = .error (.panic message)) :
    (m.trace s ws).reply
      = .error (.migration ("migration panicked: " ++ panicMessage message)) := by
  obtain ⟨hstep, hfinalize⟩ := trace_panicked (m := m) (s := s) hpanic
  have hresult : (m.trace s ws).result = .error (.panic message) :=
    (List.mem_append.mp hc).elim hstep fun hc => hfinalize (Option.mem_toList.mp hc)
  rw [MigrationTrace.reply, hresult]
  rfl

end Migration

namespace Access

/-- The access gives up: its job does, or a step or the finalizer of its migration. -/
inductive Panics (s : Surroundings) (ws : Workspace Note) : Access Note → Option String → Prop
  | call {α : Type} {job : Job Note α} {message : Option String} {after : Workspace Note}
      (hjob : job.exec s ws = (.error (.panic message), after)) (caller : Caller)
      (resume : Except StoreError α → Client Note) :
      Panics s ws (.work (.call job caller resume)) message
  | async {α : Type} {job : Job Note α} {message : Option String} {after : Workspace Note}
      (hjob : job.exec s ws = (.error (.panic message), after))
      (completion : Except StoreError α → Job Note Unit) :
      Panics s ws (.work (.async job completion)) message
  | migration {t : MigrationTask Note} {c : VersionCall Note} {message : Option String}
      (hc : c ∈ (t.migration.trace s ws).calls) (hpanic : c.result = .error (.panic message)) :
      Panics s ws (.migration t) message

/-- What is told of an access that gives up. -/
def panicReply (message : Option String) : Access Note → Reply
  | work (@Work.call _ α _ _ _) | work (@Work.async _ α _ _) =>
      ⟨α, .error (.panicked (panicMessage message))⟩
  | migration _ => ⟨Int32, .error (.migration ("migration panicked: " ++ panicMessage message))⟩

/-- An access that gives up tells so, and what it was that gave up. -/
theorem Panics.reply {s : Surroundings} {ws : Workspace Note} {a : Access Note}
    {message : Option String} (h : a.Panics s ws message) :
    (a.outcome s ws).1 = a.panicReply message := by
  cases h with
  | call hjob caller resume =>
      simp only [outcome, Work.outcome, Job.outcome_eq, hjob]
      rfl
  | async hjob completion =>
      simp only [outcome, Work.outcome, Job.outcome_eq, hjob]
      rfl
  | migration hc hpanic =>
      simp only [outcome, Migration.outcome_runGuarded, Migration.reply_panicked hc hpanic]
      rfl

end Access

namespace Engine

/-! ## Results -/

/-- What becomes of the result of an access that ends.  The caller of a job or of a migration waits
and goes on with it, the completion of a job has been run with it, the completion of a migration
begins with it; no other program is touched.  Whatever the result and whatever the completion of
the job comes to, the access lane may go on. -/
inductive HandsOn (before after : Engine Note) (s : Surroundings) : Access Note → Reply → Prop
  | call {α : Type} {job : Job Note α} {caller : Caller}
      {resume : Except StoreError α → Client Note}
      {result : Except StoreError α} {ws : Workspace Note}
      (hjob : job.outcome s before.workspace = (result, ws))
      (hworkspace : after.workspace = { ws with released := false })
      (hlane : after.accessLane = .idle)
      (hwaits : before.programOf caller = some .waiting)
      (hprograms : ∀ who, after.programOf who
        = if caller = who then some (.running (resume result)) else before.programOf who) :
      HandsOn before after s (.work (.call job caller resume)) ⟨α, result⟩
  | async {α : Type} {job : Job Note α} {completion : Except StoreError α → Job Note Unit}
      {result : Except StoreError α} {ws last : Workspace Note} {completed : Except StoreError Unit}
      (hjob : job.outcome s before.workspace = (result, ws))
      (hcompletion : (completion result).outcome s ws = (completed, last))
      (hworkspace : after.workspace = { last with released := false })
      (hlane : after.accessLane = .idle)
      (hprograms : ∀ who, after.programOf who = before.programOf who) :
      HandsOn before after s (.work (.async job completion)) ⟨α, result⟩
  | reply {ticket : Nat} {m : Migration Note} {caller : Caller}
      {resume : Except StoreError Int32 → Client Note} {result : Except StoreError Int32}
      {ws : Workspace Note}
      (hmigration : m.runGuarded.outcome s before.workspace = (result, ws))
      (hworkspace : after.workspace = { ws with released := false })
      (hleft : ticket ≤ after.left)
      (hwaits : before.programOf caller = some .waiting)
      (hprograms : ∀ who, after.programOf who
        = if caller = who then some (.running (resume result)) else before.programOf who) :
      HandsOn before after s (.migration ⟨ticket, m, .reply caller resume⟩) ⟨Int32, result⟩
  | callback {ticket : Nat} {m : Migration Note} {program : Except StoreError Int32 → Client Note}
      {result : Except StoreError Int32} {ws : Workspace Note}
      (hmigration : m.runGuarded.outcome s before.workspace = (result, ws))
      (hworkspace : after.workspace = { ws with released := false })
      (hleft : ticket ≤ after.left)
      (hnone : before.programOf .migrationLane = none)
      (hprograms : ∀ who, after.programOf who
        = if Caller.migrationLane = who then some (.running (program result))
          else before.programOf who) :
      HandsOn before after s (.migration ⟨ticket, m, .callback program⟩) ⟨Int32, result⟩

section

variable {e e' first : Engine Note} {events : List (Event Note)} {who caller : Caller}

/-- A caller for whom a reply is awaited waits. -/
theorem waiting_of_awaits (h : e.awaits who = 1) : e.programOf who = some .waiting := by
  rw [awaits] at h
  rcases hprogram : e.programOf who with _ | _ | _ | _ <;> simp_all

/-- A caller that waits goes on with its program, and nobody else does. -/
theorem programOf_resume_of_waiting (hwaits : e.programOf caller = some .waiting) (p : Client Note)
    (who : Caller) :
    (e.resume p caller).programOf who
      = if caller = who then some (.running p) else e.programOf who := by
  have hcaller : (e.resume p caller).programOf caller = some (.running p) := by
    cases caller with
    | client i =>
        have hclient : e.clients[i]? = some .waiting := hwaits
        show (e.clients.set i (.running p))[i]? = _
        rw [List.getElem?_set_self', hclient]
        rfl
    | migrationLane => rfl
  rw [programOf_resume, hcaller]

/-- A job that has been served has its result handed on. -/
theorem serve_handsOn (ha : e.Answered) {w : Work Note} (hlane : e.accessLane = .serving w) :
    e.HandsOn (({ e with accessLane := .idle } : Engine Note).serve w) (e.surroundings (.work w))
      (.work w) ((Access.work w).outcome (e.surroundings (.work w)) e.workspace).1 := by
  have hworkspace := (serve_keeps { e with accessLane := .idle } w).1
  obtain ⟨lane, hagrees, -⟩ := serve_agrees { e with accessLane := .idle } w
  have hsame (other : Caller) :
      ({ e with accessLane := .idle } : Engine Note).programOf other = e.programOf other := by
    cases other <;> rfl
  cases w with
  | call job caller resume =>
      have hcurrent : .work (.call job caller resume) ∈ e.current := by
        rw [Engine.current, hlane]
        exact List.mem_cons_self
      have hwaits := waiting_of_awaits (ha.awaits_of_current hcurrent (beq_self_eq_true caller))
      refine .call rfl hworkspace hagrees.accessLane hwaits fun who => ?_
      rw [← programOf_resume_of_waiting hwaits]
      refine programOf_resume_congr (fun other => ?_) _ caller who
      exact (programOf_withWorkspace _ _ other).trans (hsame other)
  | async job completion =>
      refine .async rfl rfl hworkspace hagrees.accessLane fun who => ?_
      exact (programOf_withWorkspace _ _ who).trans (hsame who)

/-- A migration that has run has its result handed on. -/
theorem migrate_handsOn (ha : e.Answered) {t : MigrationTask Note}
    (hlane : e.migrationLane = .migrating t) :
    e.HandsOn (e.migrate t) (e.surroundings (.migration t)) (.migration t)
      ((Access.migration t).outcome (e.surroundings (.migration t)) e.workspace).1 := by
  have hworkspace := (migrate_keeps e t).1
  obtain ⟨lane, hagrees, -⟩ := migrate_agrees e t
  have hleft : t.ticket ≤ (e.migrate t).left := by
    rw [hagrees.left]
    exact Nat.le_max_right _ _
  have hnone : e.programOf .migrationLane = none := by
    rw [programOf, hlane]
  -- Neither a lane that migrates nor an idle one carries out a program.
  have hidle (ws : Workspace Note) (left : Nat) (other : Caller) :
      ({ e.withWorkspace ws with left, migrationLane := .idle } : Engine Note).programOf other
        = e.programOf other := by
    cases other with
    | client i => exact programOf_withWorkspace e ws (.client i)
    | migrationLane => exact hnone.symm
  obtain ⟨ticket, m, completion⟩ := t
  cases completion with
  | callback program =>
      refine .callback rfl hworkspace hleft hnone fun who => ?_
      cases who with
      | client i => exact programOf_withWorkspace e _ (.client i)
      | migrationLane => rfl
  | reply caller resume =>
      have hcurrent : .migration ⟨ticket, m, .reply caller resume⟩ ∈ e.current := by
        rw [Engine.current, hlane]
        exact List.mem_append_right _ List.mem_cons_self
      have hwaits := waiting_of_awaits (ha.awaits_of_current hcurrent (beq_self_eq_true caller))
      refine .reply rfl hworkspace hleft hwaits fun who => ?_
      rw [← programOf_resume_of_waiting hwaits]
      exact programOf_resume_congr (hidle _ _) _ caller who

/-- Every access that ends hands its result on, and tells a panic as one of its own. -/
theorem Turn.handsOn (ha : e.Answered) {a : Access Note} {s : Surroundings} {reply : Reply}
    (h : e.Turn [.ended a s reply] e') :
    e.HandsOn e' s a reply ∧
      ∀ message, a.Panics s e.workspace message → reply = a.panicReply message := by
  cases h with
  | serve hlane => exact ⟨serve_handsOn ha hlane, fun _ hpanics => hpanics.reply⟩
  | migrate hlane => exact ⟨migrate_handsOn ha hlane, fun _ hpanics => hpanics.reply⟩
  | callback hlane hcall | client i hclient hcall => cases hcall

/-! ## Requests -/

/-- The requests of a run and what has become of them. -/
structure Delivers (first : Engine Note) (events : List (Event Note)) (e : Engine Note) : Prop where
  /-- The messages that were queued are those whose accesses have ended, each once, and those that
  still stand before the access lane. -/
  queued : queuedIn events = (endedIn events).map Access.message ++ e.pending
  /-- The migrations that were requested are those that have ended, each once, and those that still
  stand before the migration lane. -/
  requested : requestedIn events = (endedIn events).filterMap Access.migration? ++ e.tasks
  /-- Every access that has ended has handed its result on when it ended; if its job, a step or the
  finalizer gave up, the result tells that. -/
  handed : ∀ xs a s reply ys, events = xs ++ .ended a s reply :: ys →
    ∃ before after, Run first xs before ∧ before.Turn [.ended a s reply] after ∧ Run after ys e ∧
      before.HandsOn after s a reply ∧
      ∀ message, a.Panics s before.workspace message → reply = a.panicReply message
  /-- Every caller has got as many replies as it has asked for, but for the one that it waits
  for. -/
  replies : ∀ who, (queuedIn events).countP (·.answers who)
        + (requestedIn events).countP (·.answers who)
      = (endedIn events).countP (·.answers who) + e.awaits who ∧ e.awaits who ≤ 1
  /-- Nothing but what has ended and the notes of the programs has changed the workspace. -/
  workspace : e.workspace = replay first.workspace events
  /-- Nobody goes on but by a call of its own or by the result of an access that ends. -/
  moves : ∀ more after, e.Turn more after → e.Moves more after

/-- No run loses or doubles a request or a reply. -/
theorem Run.delivered (hfirst : first.Ordered) (hanswered : first.Answered)
    (hpending : first.pending = []) (htasks : first.tasks = []) (h : Run first events e) :
    Delivers first events e := by
  have hqueued := h.pending hfirst
  have hrequested := h.tasks hfirst
  rw [hpending, List.nil_append] at hqueued
  rw [htasks, List.nil_append] at hrequested
  refine ⟨hqueued, hrequested, ?_, fun who => ⟨?_, e.awaits_le who⟩, h.keeps.1,
    fun more after hturn => hturn.moves (h.answered hfirst hanswered)⟩
  · intro xs a s reply ys hevents
    obtain ⟨before, after, hxs, hturn, hys⟩ := h.split hevents
    obtain ⟨hhands, hpanics⟩ := hturn.handsOn (hxs.answered hfirst hanswered)
    exact ⟨before, after, hxs, hturn, hys, hhands, hpanics⟩
  · have howed := (h.answered hfirst hanswered).replies who
    have hended := countP_answers who (endedIn events)
    rw [hqueued, hrequested, List.countP_append, List.countP_append, ← howed, Engine.owed]
    omega

end

end Engine

end SqlStore
