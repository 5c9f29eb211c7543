/-
# Letting go of an engine

Whoever lets go of the last handle of an engine tells both lanes to stop, in messages behind all
that has been queued.  A lane stops at that message and at nothing else: no result, no panic and no
completion ends it or takes a message from it.  When the access lane stops, everything that was
ever queued is done, every migration has run and every reply has been given; so neither lane leaves
the other one waiting, and an engine that has come to rest has stopped.

* `Engine.Traffic`, `Engine.Turn.traffic` : what turns do to the queues and to the lanes;
* `Engine.OwnedRun` : runs in which an engine is let go of by whoever holds it last;
* `Engine.LetGo`, `Engine.OwnedRun.letGo` : what such an engine has left before its lanes;
* `Engine.Drains` : when a lane stops, and what it leaves;
* `Engine.Run.delivers` : every request is completed once, and an engine that is let go of drains.
-/
import SqlStore.Proofs.Engine.Deadlock
import SqlStore.Proofs.Engine.Delivery
import SqlStore.Proofs.Engine.Rest

namespace SqlStore

variable {Note : Type}

/-! ## Queues and lanes -/

/-- Messages that get into the two queues at once: the lanes are told to stop both, or neither. -/
inductive Posts : List (AccessMessage Note) → List (MigrationMessage Note) → Prop
  | messages {posted : List (AccessMessage Note)} {tasks : List (MigrationMessage Note)}
      (hposted : .shutdown ∉ posted) (htasks : .shutdown ∉ tasks) : Posts posted tasks
  | shutdown : Posts [.shutdown] [.shutdown]

theorem Posts.nothing : Posts ([] : List (AccessMessage Note)) [] :=
  .messages List.not_mem_nil List.not_mem_nil

namespace Engine

/-- Messages get behind those that are in the queues. -/
def Grows (e e' : Engine Note) : Prop :=
  ∃ posted tasks, Posts posted tasks ∧ e'.accessQueue = e.accessQueue ++ posted ∧
    e'.migrationQueue = e.migrationQueue ++ tasks

/-- A lane that is idle takes the first message of its queue, and stops if this tells it to; or
messages get behind those that are in the queues, and neither lane stops. -/
inductive Traffic (e e' : Engine Note) : Prop
  | take {m : AccessMessage Note} (hidle : e.accessLane = .idle)
      (hqueue : e.accessQueue = m :: e'.accessQueue) (hlane : e'.accessLane = m.lane)
      (hmigration : e'.migrationLane = e.migrationLane)
      (hmigrations : e'.migrationQueue = e.migrationQueue)
  | takeTask {m : MigrationMessage Note} (hidle : e.migrationLane = .idle)
      (hqueue : e.migrationQueue = m :: e'.migrationQueue) (hlane : e'.migrationLane = m.lane)
      (haccess : e'.accessLane = e.accessLane) (haccesses : e'.accessQueue = e.accessQueue)
  | grow (hgrows : e.Grows e') (hstopped : e'.accessLane = .stopped ↔ e.accessLane = .stopped)
      (hmigration : e'.migrationLane = .stopped ↔ e.migrationLane = .stopped)

section

variable {e e' first : Engine Note} {who : Caller} {p : Client Note} {events : List (Event Note)}
  {after : Progress Note}

theorem Grows.of_eq (hqueue : e'.accessQueue = e.accessQueue)
    (hmigrations : e'.migrationQueue = e.migrationQueue) : e.Grows e' :=
  ⟨[], [], .nothing, by rw [hqueue, List.append_nil], by rw [hmigrations, List.append_nil]⟩

theorem shutDown_grows (e : Engine Note) : e.Grows e.shutDown := ⟨_, _, .shutdown, rfl, rfl⟩

theorem post_grows (e : Engine Note) {m : AccessMessage Note} (hm : .shutdown ≠ m) :
    e.Grows (e.post m) :=
  ⟨[m], [], .messages (by simpa using hm) (by simp), rfl, (List.append_nil _).symm⟩

theorem postMigration_grows (e : Engine Note) (t : MigrationTask Note) :
    e.Grows (e.postMigration (.task t)) :=
  ⟨[], [.task t], .messages (by simp) (by simp), (List.append_nil _).symm, rfl⟩

/-- A call puts at most one message into the queues, unless it lets go of the engine. -/
theorem Call.grows (h : Call e who p events e' after) : e.Grows e' := by
  cases h with
  | run | runAsync | fence => exact post_grows e nofun
  | task => exact postMigration_grows e _
  | releaseLane | release => exact shutDown_grows e
  | panic | note | enter | selfWait | isMigrating => exact .of_eq rfl rfl

/-- A workspace brings nothing into the queues, unless a job has let go of the engine. -/
theorem withWorkspace_grows (e : Engine Note) (ws : Workspace Note) :
    e.Grows (e.withWorkspace ws) := by
  unfold withWorkspace
  split
  · exact shutDown_grows _
  · exact .of_eq rfl rfl

theorem serve_grows (e : Engine Note) (w : Work Note) : e.Grows (e.serve w) := by
  cases w with
  | call job caller resume => cases caller <;> exact withWorkspace_grows e _
  | async job completion => exact withWorkspace_grows e _

theorem migrate_grows (e : Engine Note) (t : MigrationTask Note) : e.Grows (e.migrate t) := by
  have hgrows := withWorkspace_grows e
    (t.migration.runGuarded.outcome ⟨e.migrationName, e.isMigrating⟩ e.workspace).2
  obtain ⟨ticket, m, completion⟩ := t
  cases completion with
  | callback program => exact hgrows
  | reply caller resume => cases caller <;> exact hgrows

/-- What every turn does to the queues and the lanes, whatever comes of the jobs, steps, finalizers
and completions. -/
theorem Turn.traffic (he : e.Ordered) (h : e.Turn events e') : e.Traffic e' := by
  cases h with
  | takeWork hlane hqueue | reachFence hlane hqueue | stopAccess hlane hqueue =>
      exact .take hlane hqueue rfl rfl rfl
  | takeTask hlane hqueue | stopMigration hlane hqueue => exact .takeTask hlane hqueue rfl rfl rfl
  | @serve w hlane =>
      obtain ⟨lane, hagrees, hreply⟩ := serve_agrees { e with accessLane := .idle } w
      refine .grow (serve_grows { e with accessLane := .idle } w) ?_ ?_
      · rw [hagrees.accessLane, hlane]
        exact iff_of_false nofun nofun
      · rw [hagrees.migrationLane]
        rcases hreply with ⟨-, rfl⟩ | ⟨hcalls, p, rfl⟩
        · rfl
        · -- The lane has waited for this reply, so it had not stopped.
          rw [(he.waiting hlane hcalls).1]
          exact iff_of_false nofun nofun
  | @migrate t hlane =>
      obtain ⟨lane, hagrees, hdone⟩ := migrate_agrees e t
      refine .grow (migrate_grows e t) ?_ ?_
      · rw [hagrees.accessLane]
      · rw [hagrees.migrationLane, hlane]
        rcases hdone with rfl | ⟨p, rfl⟩ <;> exact iff_of_false nofun nofun
  | leaveFence hlane =>
      refine .grow (.of_eq rfl rfl) ?_ Iff.rfl
      rw [hlane]
      exact iff_of_false nofun nofun
  | begin hlane | complete hlane =>
      refine .grow (.of_eq rfl rfl) Iff.rfl ?_
      rw [hlane]
      exact iff_of_false nofun nofun
  | @callback p events e' after hlane hcall =>
      have haccess : e'.accessLane = e.accessLane := hcall.lanes.1
      refine .grow hcall.grows (iff_of_eq (congrArg (· = .stopped) haccess)) ?_
      rw [hlane]
      exact iff_of_false nofun nofun
  | @client i p events e' after hclient hcall =>
      obtain ⟨haccess, hmigration, -, -⟩ := hcall.lanes
      exact .grow hcall.grows (iff_of_eq (congrArg (· = .stopped) haccess))
        (iff_of_eq (congrArg (· = .stopped) hmigration))
  | join => exact .grow (.of_eq rfl rfl) Iff.rfl Iff.rfl

/-! ## Whoever holds the engine last -/

/-- Nobody calls the engine: no queue gets longer, and no ticket is taken. -/
structure Quiet (e e' : Engine Note) : Prop where
  accessQueue : e'.accessQueue <:+ e.accessQueue
  migrationQueue : e'.migrationQueue <:+ e.migrationQueue
  entered : e'.entered = e.entered

/-- A run in which the engine is let go of by whoever holds it last.  A caller holds the engine
while its request is on its way, so there is none when this happens; and nobody is left to call it
later. -/
inductive OwnedRun (first : Engine Note) : List (Event Note) → Engine Note → Prop
  | refl : OwnedRun first [] first
  | tail {events more : List (Event Note)} {before after : Engine Note} :
      OwnedRun first events before → before.Turn more after →
      (before.Held → ¬ after.Held → after.submission = none) →
      (¬ before.Held → before.Quiet after) → OwnedRun first (events ++ more) after

theorem OwnedRun.run (h : OwnedRun first events e) : Run first events e := by
  induction h with
  | refl => exact .refl
  | tail _ hturn _ _ ih => exact ih.tail hturn

/-- An engine that is held has been held before. -/
theorem Traffic.held_before (h : e.Traffic e') (hheld : e'.Held) : e.Held := by
  obtain ⟨haccess, hlane, hmigrations, hmigration⟩ := hheld
  cases h with
  | take hidle hqueue hlane' hmigration' hmigrations' =>
      refine ⟨?_, by simp [hidle], hmigrations' ▸ hmigrations, hmigration' ▸ hmigration⟩
      rw [hqueue, List.mem_cons, not_or]
      refine ⟨?_, haccess⟩
      rintro rfl
      exact hlane hlane'
  | takeTask hidle hqueue hlane' haccess' haccesses' =>
      refine ⟨haccesses' ▸ haccess, haccess' ▸ hlane, ?_, by simp [hidle]⟩
      rw [hqueue, List.mem_cons, not_or]
      refine ⟨?_, hmigrations⟩
      rintro rfl
      exact hmigration hlane'
  | grow hgrows hstopped hmigration' =>
      obtain ⟨posted, tasks, -, hqueue, hmigrations'⟩ := hgrows
      rw [hqueue, List.mem_append, not_or] at haccess
      rw [hmigrations', List.mem_append, not_or] at hmigrations
      exact ⟨haccess.1, fun h => hlane (hstopped.mpr h), hmigrations.1,
        fun h => hmigration (hmigration'.mpr h)⟩

/-- A run of an engine that is still held is one of them. -/
theorem Run.owned (hfirst : first.Ordered) (h : Run first events e) (hheld : e.Held) :
    OwnedRun first events e := by
  induction h with
  | refl => exact .refl
  | @tail events more before after hrun hturn ih =>
      have hbefore := (hturn.traffic (hrun.ordered hfirst)).held_before hheld
      exact (ih hbefore).tail hturn (fun _ hnot => absurd hheld hnot)
        fun hnot => absurd hbefore hnot

/-- The lane of a queue has stopped with nothing left, or the last message in the queue, and no
other one, will stop it. -/
inductive Closing {Message : Type 1} (shutdown : Message) : List Message → Prop → Prop
  | stopped {stopped : Prop} (h : stopped) : Closing shutdown [] stopped
  | going {stopped : Prop} {queue : List Message} (h : ¬ stopped) (hqueue : shutdown ∉ queue) :
      Closing shutdown (queue ++ [shutdown]) stopped

namespace Closing

variable {Message : Type 1} {shutdown m : Message} {queue rest : List Message}
  {stopped stops : Prop}

/-- A lane that takes the first message stops just if this is the last one. -/
theorem take (h : Closing shutdown (m :: rest) stopped) (hstops : stops ↔ m = shutdown) :
    Closing shutdown rest stops := by
  generalize hqueue : m :: rest = queue at h
  cases h with
  | stopped => cases hqueue
  | @going _ ms h hms =>
      cases ms with
      | nil =>
          cases hqueue
          exact .stopped (hstops.mpr rfl)
      | cons first ms =>
          cases hqueue
          obtain ⟨hfirst, hrest⟩ := List.ne_and_not_mem_of_not_mem_cons hms
          exact .going (fun h => hfirst (hstops.mp h).symm) hrest

theorem congr (h : Closing shutdown queue stopped) (hstops : stops ↔ stopped) :
    Closing shutdown queue stops := by
  cases h with
  | stopped h => exact .stopped (hstops.mpr h)
  | going h hqueue => exact .going (fun hstops' => h (hstops.mp hstops')) hqueue

/-- A lane that has stopped has left nothing. -/
theorem eq_nil (h : Closing shutdown queue stopped) (hstopped : stopped) : queue = [] := by
  cases h with
  | stopped => rfl
  | going h => exact absurd hstopped h

/-- A lane has stopped if its queue is empty. -/
theorem of_nil (h : Closing shutdown queue stopped) (hqueue : queue = []) : stopped := by
  cases h with
  | stopped h => exact h
  | going => simp at hqueue

end Closing

/-- An engine that has been let go of: no request is on its way, and both lanes will stop when they
have done what is before them. -/
structure LetGo (e : Engine Note) : Prop where
  submission : e.submission = none
  access : Closing .shutdown e.accessQueue (e.accessLane = .stopped)
  migration : Closing .shutdown e.migrationQueue (e.migrationLane = .stopped)

theorem AccessMessage.lane_eq_stopped {m : AccessMessage Note} :
    m.lane = .stopped ↔ m = .shutdown := by
  cases m <;> simp [AccessMessage.lane]

theorem MigrationMessage.lane_eq_stopped {m : MigrationMessage Note} :
    m.lane = .stopped ↔ m = .shutdown := by
  cases m <;> simp [MigrationMessage.lane]

/-- A turn of an engine that is held lets it stay so, or tells both lanes to stop. -/
theorem Traffic.held (h : e.Traffic e') (hheld : e.Held) :
    e'.Held ∨ (e'.accessQueue = e.accessQueue ++ [.shutdown] ∧ e'.accessLane ≠ .stopped) ∧
      e'.migrationQueue = e.migrationQueue ++ [.shutdown] ∧ e'.migrationLane ≠ .stopped := by
  obtain ⟨haccess, hlane, hmigrations, hmigration⟩ := hheld
  cases h with
  | take hidle hqueue hlane' hmigration' hmigrations' =>
      rw [hqueue] at haccess
      obtain ⟨hfirst, hrest⟩ := List.ne_and_not_mem_of_not_mem_cons haccess
      refine .inl ⟨hrest, ?_, hmigrations' ▸ hmigrations, hmigration' ▸ hmigration⟩
      rw [hlane', ne_eq, AccessMessage.lane_eq_stopped]
      exact hfirst.symm
  | takeTask hidle hqueue hlane' haccess' haccesses' =>
      rw [hqueue] at hmigrations
      obtain ⟨hfirst, hrest⟩ := List.ne_and_not_mem_of_not_mem_cons hmigrations
      refine .inl ⟨haccesses' ▸ haccess, haccess' ▸ hlane, hrest, ?_⟩
      rw [hlane', ne_eq, MigrationMessage.lane_eq_stopped]
      exact hfirst.symm
  | grow hgrows hstopped hmigration' =>
      obtain ⟨posted, tasks, hposts, hqueue, hmigrations'⟩ := hgrows
      have hlane' : e'.accessLane ≠ .stopped := fun h => hlane (hstopped.mp h)
      have hmigrationLane : e'.migrationLane ≠ .stopped := fun h => hmigration (hmigration'.mp h)
      cases hposts with
      | messages hposted htasks =>
          refine .inl ⟨?_, hlane', ?_, hmigrationLane⟩
          · rw [hqueue, List.mem_append]
            exact not_or.mpr ⟨haccess, hposted⟩
          · rw [hmigrations', List.mem_append]
            exact not_or.mpr ⟨hmigrations, htasks⟩
      | shutdown => exact .inr ⟨⟨hqueue, hlane'⟩, hmigrations', hmigrationLane⟩

/-- While nobody calls an engine no request begins. -/
theorem Turn.submission_eq_none (he : e.Ordered) (h : e.Turn events e')
    (hfree : e.submission = none) (hentered : e'.entered = e.entered) : e'.submission = none := by
  rcases h.tickets he with hsame | hstep
  · exact (congrArg Tickets.submission hsame).trans hfree
  · generalize hafter : e'.tickets = after at hstep
    have hsubmission : e'.submission = after.submission := congrArg Tickets.submission hafter
    have hcount : e'.entered = after.entered := congrArg Tickets.entered hafter
    have hnone : e.tickets.submission = none := hfree
    cases hstep with
    | enter =>
        have : e.entered + 1 = e.entered := hcount.symm.trans hentered
        omega
    | fence hheld | task hheld =>
        rw [hnone] at hheld
        cases hheld
    | leave => exact hsubmission.trans hfree

/-- A queue that does not get longer has got nothing. -/
theorem eq_of_suffix {α : Type 1} {queue after posted : List α} (hsuffix : after <:+ queue)
    (hafter : after = queue ++ posted) : after = queue := by
  have hlength := hsuffix.length_le
  rw [hafter, List.length_append] at hlength
  have hnone : posted = [] := List.length_eq_zero_iff.mp (by omega)
  rw [hafter, hnone, List.append_nil]

/-- An engine that has been let go of stays so while nobody calls it. -/
theorem Turn.letGo (he : e.Ordered) (h : e.Turn events e') (hquiet : e.Quiet e')
    (hletGo : e.LetGo) : e'.LetGo := by
  obtain ⟨hfree, haccess, hmigration⟩ := hletGo
  have hnone := h.submission_eq_none he hfree hquiet.entered
  cases h.traffic he with
  | take hidle hqueue hlane hmigrationLane hmigrations =>
      rw [hqueue] at haccess
      refine ⟨hnone, haccess.take ?_, ?_⟩
      · rw [hlane, AccessMessage.lane_eq_stopped]
      · rw [hmigrations, hmigrationLane]
        exact hmigration
  | takeTask hidle hqueue hlane haccessLane haccesses =>
      rw [hqueue] at hmigration
      refine ⟨hnone, ?_, hmigration.take ?_⟩
      · rw [haccesses, haccessLane]
        exact haccess
      · rw [hlane, MigrationMessage.lane_eq_stopped]
  | grow hgrows hstopped hmigrationStopped =>
      obtain ⟨posted, tasks, -, hqueue, hmigrations⟩ := hgrows
      rw [← eq_of_suffix hquiet.accessQueue hqueue] at haccess
      rw [← eq_of_suffix hquiet.migrationQueue hmigrations] at hmigration
      exact ⟨hnone, haccess.congr hstopped, hmigration.congr hmigrationStopped⟩

/-- An engine that was let go of by whoever held it last has its lanes about to stop. -/
theorem OwnedRun.letGo (hfirst : first.Ordered) (hheld : first.Held) (h : OwnedRun first events e) :
    e.Held ∨ e.LetGo := by
  induction h with
  | refl => exact .inl hheld
  | @tail events more before after hrun hturn hdrop hquiet ih =>
      have hbefore := hrun.run.ordered hfirst
      by_cases hstill : before.Held
      · rcases (hturn.traffic hbefore).held hstill with hafter |
          ⟨⟨hqueue, hlane⟩, hmigrations, hmigration⟩
        · exact .inl hafter
        · have hnot : ¬ after.Held := by
            intro hafter
            refine hafter.accessQueue ?_
            rw [hqueue]
            exact List.mem_append_right _ List.mem_cons_self
          refine .inr ⟨hdrop hstill hnot, ?_, ?_⟩
          · rw [hqueue]
            exact .going hlane hstill.accessQueue
          · rw [hmigrations]
            exact .going hmigration hstill.migrationQueue
      · exact .inr (hturn.letGo hbefore (hquiet hstill) (ih.resolve_left hstill))

/-! ## What lanes leave when they stop -/

/-- An access lane that stops leaves nothing behind: neither a message nor a task nor a caller. -/
theorem LetGo.access_stopped (he : e.Ordered) (ha : e.Answered) (h : e.LetGo)
    (hstopped : e.accessLane = .stopped) :
    e.pending = [] ∧ e.tasks = [] ∧ ∀ who, e.awaits who = 0 := by
  have hpending : e.pending = [] := by
    rw [Engine.pending, hstopped, h.access.eq_nil hstopped]
    rfl
  have htasks := he.tasks_eq_nil h.submission hpending
  exact ⟨hpending, htasks, ha.awaits_eq_zero hpending htasks⟩

/-- A migration lane that stops leaves no task, and the fence in hand, if any, is open. -/
theorem LetGo.migration_stopped (he : e.Ordered) (h : e.LetGo)
    (hstopped : e.migrationLane = .stopped) :
    e.tasks = [] ∧ ∀ ticket, e.accessLane = .fenced ticket → ticket ≤ e.left := by
  have htasks : e.tasks = [] := by
    rw [Engine.tasks, hstopped, h.migration.eq_nil hstopped]
    rfl
  refine ⟨htasks, fun ticket hfenced => ?_⟩
  by_contra hnot
  have hlength := he.length_tasks h.submission
  rw [htasks, Engine.pending, hfenced, AccessLane.inHand, if_neg hnot] at hlength
  cases hlength

/-- An engine that has been let go of stops with nobody waiting, unless its lanes have crossed. -/
theorem LetGo.stops (he : e.Ordered) (ha : e.Answered) (h : e.LetGo)
    (hstuck : ∀ thread, e.move thread = none) :
    e.Crossed ∨ (∀ who, e.awaits who = 0) ∧ e.hasStopped = true := by
  rcases access_stuck hstuck with ⟨haccess, hqueue⟩ | ⟨ticket, haccess, hleft⟩ | haccess
  · have hstopped := h.access.of_nil hqueue
    rw [haccess] at hstopped
    cases hstopped
  · exact .inl (ha.crossed he hstuck h.migration.eq_nil haccess hleft)
  · obtain ⟨hpending, htasks, hnobody⟩ := h.access_stopped he ha haccess
    refine .inr ⟨hnobody, ?_⟩
    rcases ha.migration_stuck hstuck with ⟨hmigration, hqueue⟩ | ⟨t, hmigration, hreached⟩ |
      hmigration | hmigration
    · have hstopped := h.migration.of_nil hqueue
      rw [hmigration] at hstopped
      cases hstopped
    · rw [Engine.tasks, hmigration] at htasks
      cases htasks
    · have hwaits := hnobody .migrationLane
      rw [awaits, programOf_lane.mpr hmigration] at hwaits
      cases hwaits
    · rw [Engine.hasStopped, haccess, hmigration]

/-- What an engine does until it is let go of and afterwards. -/
structure Drains (events : List (Event Note)) (e : Engine Note) : Prop where
  /-- When the access lane stops, everything that was queued and every migration that was requested
  is done, nobody waits for a reply, and the migration lane waits for no fence. -/
  access : e.accessLane = .stopped → queuedIn events = (endedIn events).map Access.message ∧
    requestedIn events = (endedIn events).filterMap Access.migration? ∧
    (∀ who, e.awaits who = 0) ∧ ∀ t, e.migrationLane ≠ .awaiting t
  /-- When the migration lane stops, every migration that was requested is done, and the access lane
  waits at no fence. -/
  migration : e.migrationLane = .stopped →
    requestedIn events = (endedIn events).filterMap Access.migration? ∧
    ∀ ticket, e.accessLane = .fenced ticket → ticket ≤ e.left
  /-- Where no thread can move, nobody waits and the lanes of an engine that has been let go of have
  stopped, unless the migration lane is in a completion that has not returned: it has run a job that
  stands behind a fence. -/
  rest : (∀ thread, e.move thread = none) →
    e.Crossed ∨ (∀ who, e.awaits who = 0) ∧ (e.Held ∨ e.hasStopped = true)

/-- An engine that is let go of by whoever holds it last drains. -/
theorem OwnedRun.drains (hfirst : first.Ordered) (hanswered : first.Answered) (hheld : first.Held)
    (hpending : first.pending = []) (htasks : first.tasks = []) (h : OwnedRun first events e) :
    Drains events e := by
  have he := h.run.ordered hfirst
  have ha := h.run.answered hfirst hanswered
  have hletGo := h.letGo hfirst hheld
  have hqueued := h.run.pending hfirst
  have hrequested := h.run.tasks hfirst
  rw [hpending, List.nil_append] at hqueued
  rw [htasks, List.nil_append] at hrequested
  refine ⟨?_, ?_, ?_⟩
  · intro hstopped
    have hletGo := hletGo.resolve_left fun hheld => hheld.accessLane hstopped
    obtain ⟨hpending, htasks, hnobody⟩ := hletGo.access_stopped he ha hstopped
    rw [hpending, List.append_nil] at hqueued
    rw [htasks, List.append_nil] at hrequested
    refine ⟨hqueued, hrequested, hnobody, fun t hlane => ?_⟩
    rw [Engine.tasks, hlane] at htasks
    cases htasks
  · intro hstopped
    have hletGo := hletGo.resolve_left fun hheld => hheld.migrationLane hstopped
    obtain ⟨htasks, hfences⟩ := hletGo.migration_stopped he hstopped
    rw [htasks, List.append_nil] at hrequested
    exact ⟨hrequested, hfences⟩
  · intro hstuck
    rcases hletGo with hheld | hletGo
    · by_cases hwaits : ∃ who, e.programOf who = some .waiting
      · exact .inl (Deadlocked.crossed he ha hheld ⟨hwaits, hstuck⟩)
      · refine .inr ⟨fun who => ?_, .inl hheld⟩
        by_contra hawaits
        have hle := e.awaits_le who
        exact hwaits ⟨who, waiting_of_awaits (by omega)⟩
    · exact (hletGo.stops he ha hstuck).imp_right (And.imp_right .inr)

/-- A new engine is held. -/
theorem held_start (accessName migrationName : String) (ws : Workspace Note)
    (clients : List (Progress Note)) :
    ({ start accessName migrationName ws with clients } : Engine Note).Held := by
  refine ⟨?_, ?_, ?_, ?_⟩
  · rintro ⟨⟩
  · rintro ⟨⟩
  · rintro ⟨⟩
  · rintro ⟨⟩

/-- Every request of every run is completed at most once, with its own result, and no result ends a
lane.  An engine comes to rest, and then nobody waits, unless a completion of a migration has not
returned; there is none such where completions run no jobs.  An engine that is let go of by whoever
holds it last does everything that has been queued before its lanes stop. -/
theorem Run.delivers {accessName migrationName : String} {ws : Workspace Note}
    {clients : List (Client Note)}
    (h : Run { start accessName migrationName ws with clients := clients.map .running } events e) :
    Delivers { start accessName migrationName ws with clients := clients.map .running } events e ∧
      (∀ more after, e.Turn more after → e.Traffic after) ∧
      (WellFounded fun after before : Engine Note => before.Step after) ∧
      ((∀ p ∈ clients, p.SparesLane false) → ¬ e.Crossed) ∧
      (OwnedRun { start accessName migrationName ws with clients := clients.map .running } events
          e →
        Drains events e) := by
  have hfirst := ordered_start accessName migrationName ws (clients.map Progress.running)
  have hanswered := answered_start accessName migrationName ws clients
  have hheld := held_start accessName migrationName ws (clients.map Progress.running)
  refine ⟨h.delivered hfirst hanswered rfl rfl, ?_, wellFounded_step, ?_, ?_⟩
  · intro more after hturn
    exact hturn.traffic (h.ordered hfirst)
  · intro hclients hcrossed
    have hspared := h.spared hfirst hanswered (spared_start accessName migrationName ws hclients)
    exact hspared.lane (programOf_lane.mpr hcrossed.migrationLane)
  · intro howned
    exact howned.drains hfirst hanswered hheld rfl rfl

end

/-! ## An engine in which everything panics -/

/-- A job that gives up. -/
def giveUp : Job Unit Unit := Job.panic (some "no")

/-- One client queues a job whose completion gives up as well, runs another one, requests a
migration whose step and whose completion give up, and lets go of the engine. -/
def panicking : Engine Unit :=
  { start "access" "migration" ⟨.inMemory, [], false⟩ with
    clients := [.runAsync giveUp (fun _ => giveUp) (.run giveUp fun _ =>
      .migrate (.new 1 fun _ => giveUp) (fun _ => .panic none) .release)].map .running }

/-- Both jobs have been served, and the migration has been requested. -/
theorem panicking_requested : ∃ events, Run panicking events { panicking with
      accessQueue := [.fence 1]
      migrationQueue := [.task ⟨1, .new 1 fun _ => giveUp, .callback fun _ => .panic none⟩]
      entered := 1, clients := [.running .release] } ∧
    repliesIn events = [⟨Unit, .error (.panicked "no")⟩, ⟨Unit, .error (.panicked "no")⟩] := by
  have h₀ : Run panicking [] panicking := .refl
  have h₁ := h₀.tail (.client 0 rfl (.runAsync _ _ _))
  have h₂ := h₁.tail (.client 0 rfl (.run _ _))
  have h₃ := h₂.tail (.takeWork rfl rfl)
  have h₄ := h₃.tail (.serve rfl)
  have h₅ := h₄.tail (.takeWork rfl rfl)
  have h₆ := h₅.tail (.serve rfl)
  have h₇ := h₆.tail (.client 0 rfl (.enter (.migrate _ _ _) rfl))
  have h₈ := h₇.tail (.client 0 rfl (.fence (.migrate _ _ _) rfl))
  have h₉ := h₈.tail (.client 0 rfl (.task (.migrate _ _ _) rfl))
  exact ⟨_, h₉, rfl⟩

/-- No panic keeps the engine from draining: the lanes stop when all three requests have been
completed, the migration after the client has let go of the engine. -/
theorem delivers_panicking : ∃ events e, OwnedRun panicking events e ∧ e.hasStopped = true ∧
    ¬ e.Crossed ∧ queuedIn events = (endedIn events).map Access.message ∧
    repliesIn events = [⟨Unit, .error (.panicked "no")⟩, ⟨Unit, .error (.panicked "no")⟩,
      ⟨Int32, .error (.migration ("migration panicked: " ++ "no"))⟩] := by
  obtain ⟨events, hrun, hreplies⟩ := panicking_requested
  have hheld : ({ panicking with
      accessQueue := [.fence 1]
      migrationQueue := [.task ⟨1, .new 1 fun _ => giveUp, .callback fun _ => .panic none⟩]
      entered := 1, clients := [.running .release] } : Engine Unit).Held := by
    refine ⟨?_, nofun, ?_, nofun⟩
    · rintro (_ | ⟨_, ⟨⟩⟩)
    · rintro (_ | ⟨_, ⟨⟩⟩)
  have h₀ := hrun.owned (ordered_start "access" "migration" ⟨.inMemory, [], false⟩ _) hheld
  have h₁ := h₀.tail (.client 0 rfl (.release rfl)) (fun _ _ => rfl) fun hnot => absurd hheld hnot
  have h₂ := h₁.tail (.reachFence rfl rfl) (fun _ _ => rfl) fun _ =>
    ⟨List.suffix_cons _ _, List.suffix_rfl, rfl⟩
  have h₃ := h₂.tail (.takeTask rfl rfl) (fun _ _ => rfl) fun _ =>
    ⟨List.suffix_rfl, List.suffix_cons _ _, rfl⟩
  have h₄ := h₃.tail (.begin rfl (.head _)) (fun _ _ => rfl) fun _ =>
    ⟨List.suffix_rfl, List.suffix_rfl, rfl⟩
  have h₅ := h₄.tail (.migrate rfl) (fun _ _ => rfl) fun _ =>
    ⟨List.suffix_rfl, List.suffix_rfl, rfl⟩
  have h₆ := h₅.tail (.callback rfl (.panic none)) (fun _ _ => rfl) fun _ =>
    ⟨List.suffix_rfl, List.suffix_rfl, rfl⟩
  have h₇ := h₆.tail (.complete rfl) (fun _ _ => rfl) fun _ =>
    ⟨List.suffix_rfl, List.suffix_rfl, rfl⟩
  have h₈ := h₇.tail (.leaveFence rfl (Nat.le_refl 1)) (fun _ _ => rfl) fun _ =>
    ⟨List.suffix_rfl, List.suffix_rfl, rfl⟩
  have h₉ := h₈.tail (.stopAccess rfl rfl) (fun _ _ => rfl) fun _ =>
    ⟨List.suffix_cons _ _, List.suffix_rfl, rfl⟩
  have h := h₉.tail (.stopMigration rfl rfl) (fun _ _ => rfl) fun _ =>
    ⟨List.suffix_rfl, List.suffix_cons _ _, rfl⟩
  obtain ⟨-, -, -, hspared, hdrains⟩ := Run.delivers h.run
  refine ⟨_, _, h, rfl, hspared ?_, ((hdrains h).access rfl).1, ?_⟩
  · exact List.forall_mem_singleton.mpr ⟨rfl, fun _ => ⟨fun _ => trivial, trivial⟩⟩
  simp only [repliesIn, List.append_assoc, List.filterMap_append] at hreplies ⊢
  rw [hreplies]
  rfl

end Engine

end SqlStore
