/-
# Deadlocks

A call that waits gets its reply unless the two lanes wait for each other.  That takes a completion
of a migration that runs a job: the completion holds the migration lane, and if another migration
was requested first, the job stands behind a fence that only this lane can open.  From then on
neither lane moves.  Nothing else stops an engine that somebody still holds, so that no call waits
in vain where completions run no jobs.

* `Engine.Deadlocked`, `Engine.Crossed` : nothing moves though a call waits, and lanes that wait for
  each other;
* `Engine.Crossed.run` : crossed lanes stay as they are;
* `Engine.Deadlocked.crossed` : the only deadlock is that of crossed lanes;
* `Client.SparesLane`, `Engine.Run.spared` : programs whose completions run no job;
* `Engine.Reaches.deadlocked_iff` : when an engine deadlocks;
* `Engine.crossing_deadlocks` : an engine that does.
-/
import SqlStore.Proofs.Engine.Reply

namespace SqlStore

variable {Note : Type}

namespace Engine

/-- A call waits for its reply, and no thread can move. -/
structure Deadlocked (e : Engine Note) : Prop where
  waits : ∃ who, e.programOf who = some .waiting
  stuck : ∀ thread, e.move thread = none

/-- The migration lane waits in a completion for a job, and the access lane stands at a fence whose
migration has not been run. -/
structure Crossed (e : Engine Note) : Prop where
  migrationLane : e.migrationLane = .completing .waiting
  accessLane : ∃ ticket, e.accessLane = .fenced ticket ∧ e.left < ticket

/-- Somebody still holds the engine: neither lane has been told to stop. -/
structure Held (e : Engine Note) : Prop where
  accessQueue : AccessMessage.shutdown ∉ e.accessQueue
  accessLane : e.accessLane ≠ .stopped
  migrationQueue : MigrationMessage.shutdown ∉ e.migrationQueue
  migrationLane : e.migrationLane ≠ .stopped

section

variable {e e' : Engine Note} {who : Caller} {p : Client Note} {events : List (Event Note)}
  {after : Progress Note}

/-! ## Crossed lanes -/

/-- Neither of two crossed lanes can move. -/
theorem Crossed.stuck (h : e.Crossed) : e.moveAccess = none ∧ e.moveMigration = none := by
  obtain ⟨ticket, haccess, hleft⟩ := h.accessLane
  have hnot : ¬ ticket ≤ e.left := by omega
  constructor
  · rw [moveAccess, haccess]
    exact if_neg hnot
  · rw [moveMigration, h.migrationLane]

/-- Whatever the clients do, crossed lanes stay crossed. -/
theorem Crossed.turn (h : e.Crossed) (hturn : e.Turn events e') : e'.Crossed := by
  obtain ⟨hmigration, ticket, haccess, hleft⟩ := h
  cases hturn with
  | takeWork hlane | reachFence hlane | stopAccess hlane | serve hlane =>
      rw [haccess] at hlane
      cases hlane
  | leaveFence hlane hticket =>
      rw [haccess] at hlane
      cases hlane
      omega
  | takeTask hlane | stopMigration hlane | begin hlane | migrate hlane | complete hlane
  | callback hlane =>
      rw [hmigration] at hlane
      cases hlane
  | client i hclient hcall =>
      obtain ⟨haccess', hmigration', -, hleft'⟩ := hcall.lanes
      refine ⟨hmigration'.trans hmigration, ticket, haccess'.trans haccess, ?_⟩
      show _ < ticket
      rw [hleft']
      exact hleft
  | join => exact ⟨hmigration, ticket, haccess, hleft⟩

/-- Crossed lanes are crossed for ever. -/
theorem Crossed.run (h : e.Crossed) (hrun : Run e events e') : e'.Crossed := by
  induction hrun with
  | refl => exact h
  | tail _ hturn ih => exact ih.turn hturn

/-! ## What an engine that cannot move looks like -/

/-- Nothing turns where no thread can move. -/
theorem not_turn (hstuck : ∀ thread, e.move thread = none) : ¬ e.Turn events e' := by
  intro h
  obtain ⟨thread, hmove⟩ := step_iff_turn.mpr ⟨events, h⟩
  rw [hstuck thread] at hmove
  cases hmove

theorem programOf_lane {p : Progress Note} :
    e.programOf .migrationLane = some p ↔ e.migrationLane = .completing p := by
  rw [programOf]
  split
  · rename_i q hlane
    rw [hlane, Option.some.injEq, MigrationLane.completing.injEq]
  · rename_i hnot
    refine iff_of_false ?_ (hnot p)
    rintro ⟨⟩

/-- A program that makes a call can go on. -/
theorem exists_turn_of_call (hprogram : e.programOf who = some (.running p))
    (hcall : Call e who p events e' after) : ∃ e'', e.Turn events e'' := by
  cases who with
  | client i => exact ⟨_, .client i hprogram hcall⟩
  | migrationLane => exact ⟨_, .callback (programOf_lane.mp hprogram) hcall⟩

/-- Whoever has a request on its way can go on with it, so there is none where nothing moves. -/
theorem Answered.submission_eq_none (ha : e.Answered) (hstuck : ∀ thread, e.move thread = none) :
    e.submission = none := by
  cases hsubmission : e.submission with
  | none => rfl
  | some s =>
      obtain ⟨holder, ticket, fenced⟩ := s
      obtain ⟨p, m, c, after, hprogram, hrequest⟩ := ha.holder _ hsubmission
      cases fenced with
      | false =>
          obtain ⟨e', hturn⟩ := exists_turn_of_call hprogram (.fence hrequest hsubmission)
          exact absurd hturn (not_turn hstuck)
      | true =>
          obtain ⟨e', hturn⟩ := exists_turn_of_call hprogram (.task hrequest hsubmission)
          exact absurd hturn (not_turn hstuck)

/-- While no request is on its way every program but the empty one has a call to make. -/
theorem exists_call (hfree : e.submission = none) (who : Caller) (hp : p ≠ .done) :
    ∃ events e' after, Call e who p events e' after := by
  cases p with
  | done => exact absurd rfl hp
  | panic message => exact ⟨_, _, _, .panic message⟩
  | note n next => exact ⟨_, _, _, .note n next⟩
  | run job next => exact ⟨_, _, _, .run job next⟩
  | runAsync job completion next => exact ⟨_, _, _, .runAsync job completion next⟩
  | migrate m completion next => exact ⟨_, _, _, .enter (.migrate m completion next) hfree⟩
  | migrateBlocking m next =>
      cases who with
      | client i => exact ⟨_, _, _, .enter (.migrateBlocking rfl m next) hfree⟩
      | migrationLane => exact ⟨_, _, _, .selfWait rfl m next⟩
  | isMigrating next => exact ⟨_, _, _, .isMigrating next⟩
  | release =>
      cases who with
      | client i => exact ⟨_, _, _, .release rfl⟩
      | migrationLane => exact ⟨_, _, _, .releaseLane rfl⟩

/-- An access lane that cannot move has nothing to do, stands at a fence, or has stopped. -/
theorem access_stuck (hstuck : ∀ thread, e.move thread = none) :
    (e.accessLane = .idle ∧ e.accessQueue = []) ∨
      (∃ ticket, e.accessLane = .fenced ticket ∧ e.left < ticket) ∨ e.accessLane = .stopped := by
  cases hlane : e.accessLane with
  | idle =>
      cases hqueue : e.accessQueue with
      | nil => exact .inl ⟨rfl, rfl⟩
      | cons message rest =>
          cases message with
          | work w => exact absurd (.takeWork hlane hqueue) (not_turn hstuck)
          | fence ticket => exact absurd (.reachFence hlane hqueue) (not_turn hstuck)
          | shutdown => exact absurd (.stopAccess hlane hqueue) (not_turn hstuck)
  | serving w => exact absurd (.serve hlane) (not_turn hstuck)
  | fenced ticket =>
      refine .inr (.inl ⟨ticket, rfl, ?_⟩)
      by_cases hleft : ticket ≤ e.left
      · exact absurd (.leaveFence hlane hleft) (not_turn hstuck)
      · omega
  | stopped => exact .inr (.inr rfl)

/-- A migration lane that cannot move has nothing to do, waits for a fence, waits for a job, or has
stopped. -/
theorem Answered.migration_stuck (ha : e.Answered) (hstuck : ∀ thread, e.move thread = none) :
    (e.migrationLane = .idle ∧ e.migrationQueue = []) ∨
      (∃ t, e.migrationLane = .awaiting t ∧ t.ticket ∉ e.reached) ∨
      e.migrationLane = .completing .waiting ∨ e.migrationLane = .stopped := by
  cases hlane : e.migrationLane with
  | idle =>
      cases hqueue : e.migrationQueue with
      | nil => exact .inl ⟨rfl, rfl⟩
      | cons message rest =>
          cases message with
          | task t => exact absurd (.takeTask hlane hqueue) (not_turn hstuck)
          | shutdown => exact absurd (.stopMigration hlane hqueue) (not_turn hstuck)
  | awaiting t =>
      refine .inr (.inl ⟨t, rfl, fun hreached => ?_⟩)
      exact not_turn hstuck (.begin hlane hreached)
  | migrating t => exact absurd (.migrate hlane) (not_turn hstuck)
  | completing progress =>
      cases progress with
      | running p =>
          by_cases hp : p = .done
          · subst hp
            exact absurd (.complete hlane) (not_turn hstuck)
          · have hfree := ha.submission_eq_none hstuck
            obtain ⟨events, e', after, hcall⟩ := exists_call hfree .migrationLane hp
            exact absurd (.callback hlane hcall) (not_turn hstuck)
      | waiting => exact .inr (.inr (.inl rfl))
      | joining => exact absurd (programOf_lane.mpr hlane) ha.joining
  | stopped => exact .inr (.inr (.inr rfl))

/-- Where no request is on its way there is a task for each fence. -/
theorem Ordered.length_tasks (he : e.Ordered) (hfree : e.submission = none) :
    e.tasks.length = (e.pending.filterMap AccessMessage.ticket?).length := by
  have hfences := he.tickets.fenceCount
  have htasks := he.tickets.taskCount
  have hnone : e.tickets.submission = none := hfree
  have hlength : e.tickets.tasks.length = e.tasks.length := List.length_map _
  rw [hnone] at hfences htasks
  rw [hlength] at htasks
  show _ = e.tickets.fences.length
  simp only [Option.any_none, Option.isSome_none, Bool.false_eq_true, if_false] at hfences htasks
  omega

/-- A fence whose migration has not been run keeps an engine from moving only where lanes have
crossed, as long as the migration lane does not stop before its tasks are done. -/
theorem Answered.crossed (he : e.Ordered) (ha : e.Answered)
    (hstuck : ∀ thread, e.move thread = none)
    (hstopped : e.migrationLane = .stopped → e.migrationQueue = []) {ticket : Nat}
    (haccess : e.accessLane = .fenced ticket) (hleft : e.left < ticket) : e.Crossed := by
  have hlength := he.length_tasks (ha.submission_eq_none hstuck)
  have hnot : ¬ ticket ≤ e.left := by omega
  have hpending : e.pending = .fence ticket :: e.accessQueue.filter AccessMessage.isAccess := by
    rw [Engine.pending, haccess, AccessLane.inHand, if_neg hnot]
    rfl
  -- The fence in hand has a task.
  have htasks : e.tasks ≠ [] := by
    intro hnone
    rw [hnone, hpending] at hlength
    cases hlength
  rcases ha.migration_stuck hstuck with ⟨hmigration, hqueue⟩ | ⟨t, hmigration, hreached⟩ |
    hmigration | hmigration
  · refine absurd ?_ htasks
    rw [Engine.tasks, hmigration, hqueue]
    rfl
  · -- The fence that the lane waits for is the one in hand.
    have htask : e.tasks = t :: e.migrationQueue.filterMap MigrationMessage.task? := by
      rw [Engine.tasks, hmigration]
      rfl
    have hfence := ha.fence ticket haccess
    rw [he.next_fence hpending, ← he.next_task htask] at hfence
    exact absurd hfence hreached
  · exact ⟨hmigration, ticket, haccess, hleft⟩
  · refine absurd ?_ htasks
    rw [Engine.tasks, hmigration, hstopped hmigration]
    rfl

/-- With nothing before the access lane there is no task either, unless a request is on its way. -/
theorem Ordered.tasks_eq_nil (he : e.Ordered) (hfree : e.submission = none)
    (hpending : e.pending = []) : e.tasks = [] := by
  have hlength := he.length_tasks hfree
  rw [hpending] at hlength
  exact List.length_eq_zero_iff.mp hlength

/-- With nothing before the lanes nobody waits. -/
theorem Answered.awaits_eq_zero (ha : e.Answered) (hpending : e.pending = [])
    (htasks : e.tasks = []) (who : Caller) : e.awaits who = 0 := by
  rw [← ha.replies who, Engine.owed, hpending, htasks]
  rfl

/-- A deadlock is one of crossed lanes. -/
theorem Deadlocked.crossed (he : e.Ordered) (ha : e.Answered) (hheld : e.Held)
    (h : e.Deadlocked) : e.Crossed := by
  rcases access_stuck h.stuck with ⟨haccess, hqueue⟩ | ⟨ticket, haccess, hleft⟩ | haccess
  · have hpending : e.pending = [] := by
      rw [Engine.pending, haccess, hqueue]
      rfl
    have htasks := he.tasks_eq_nil (ha.submission_eq_none h.stuck) hpending
    obtain ⟨who, hwaiting⟩ := h.waits
    have hnone := ha.awaits_eq_zero hpending htasks who
    rw [awaits, hwaiting] at hnone
    cases hnone
  · exact ha.crossed he h.stuck (fun hstopped => absurd hstopped hheld.migrationLane) haccess hleft
  · exact absurd haccess hheld.accessLane

end

end Engine

/-! ## Completions that run no job -/

/-- Whether the caller is the migration lane. -/
def Caller.isLane : Caller → Bool
  | client _ => false
  | migrationLane => true

/-- The program keeps the migration lane free: it runs no job if it is carried out there, and
neither do the completions of the migrations that it requests. -/
def Client.SparesLane (onLane : Bool) : Client Note → Prop
  | done | panic _ => True
  | note _ next => next.SparesLane onLane
  | run _ next => onLane = false ∧ ∀ r, (next r).SparesLane onLane
  | runAsync _ _ next => next.SparesLane onLane
  | migrate _ completion next => (∀ r, (completion r).SparesLane true) ∧ next.SparesLane onLane
  | migrateBlocking _ next => ∀ r, (next r).SparesLane onLane
  | isMigrating next => ∀ b, (next b).SparesLane onLane
  | release => True

/-- Whoever goes on after the access keeps the migration lane free. -/
def Access.SparesLane (a : Access Note) : Prop :=
  ∀ caller p, a.Resumes caller p → p.SparesLane caller.isLane

namespace Engine

/-- All programs keep the migration lane free, now and after the accesses before the lanes. -/
structure Spared (e : Engine Note) : Prop where
  programs : ∀ who p, e.programOf who = some (.running p) → p.SparesLane who.isLane
  lane : e.programOf .migrationLane ≠ some .waiting
  work : ∀ w, .work w ∈ e.pending → (Access.work w).SparesLane
  tasks : ∀ t ∈ e.tasks, (Access.migration t).SparesLane

/-- A new engine is as its clients are. -/
theorem spared_start (accessName migrationName : String) (ws : Workspace Note)
    {clients : List (Client Note)} (hclients : ∀ p ∈ clients, p.SparesLane false) :
    ({ start accessName migrationName ws with
      clients := clients.map .running } : Engine Note).Spared := by
  refine ⟨?_, ?_, ?_, ?_⟩
  · intro who p hprogram
    cases who with
    | client i =>
        have hrunning : (clients.map Progress.running)[i]? = some (.running p) := hprogram
        rw [List.getElem?_map] at hrunning
        obtain ⟨q, hq, heq⟩ := Option.map_eq_some_iff.mp hrunning
        cases heq
        exact hclients p (List.mem_of_getElem? hq)
    | migrationLane => cases hprogram
  · rintro ⟨⟩
  · rintro w ⟨⟩
  · rintro t ⟨⟩

section

variable {e e' : Engine Note} {who : Caller} {p : Client Note} {events : List (Event Note)}
  {after : Progress Note}

/-- A call of such a program leaves such a program. -/
theorem Call.spares_program (hp : p.SparesLane who.isLane) (h : Call e who p events e' after) :
    ∀ q, after = .running q → q.SparesLane who.isLane := by
  rintro q hq
  cases h with
  | note n next | runAsync job completion next =>
      cases hq
      exact hp
  | enter hrequest hfree | fence hrequest hheld =>
      cases hq
      exact hp
  | task hrequest hheld =>
      cases hrequest with
      | migrate =>
          cases hq
          exact hp.2
      | migrateBlocking => cases hq
  | selfWait hwho m next =>
      cases hq
      exact hp _
  | isMigrating next =>
      cases hq
      exact hp _
  | panic | releaseLane =>
      cases hq
      trivial
  | run | release => cases hq

/-- On the migration lane such a program waits for nothing. -/
theorem Call.spares_lane (hp : p.SparesLane true) (h : Call e .migrationLane p events e' after) :
    after ≠ .waiting := by
  rintro rfl
  cases h with
  | run job next => cases hp.1
  | task hrequest =>
      cases hrequest with
      | migrateBlocking hwho => cases hwho

/-- Such a program has such programs go on after the jobs that it queues. -/
theorem Call.spares_work (hp : p.SparesLane who.isLane) (h : Call e who p events e' after)
    (w : Work Note) (hw : .work w ∈ queuedIn events) : (Access.work w).SparesLane := by
  cases h with
  | run job next =>
      cases List.mem_singleton.mp hw
      rintro caller q ⟨⟩
      exact hp.2 _
  | runAsync job completion next =>
      cases List.mem_singleton.mp hw
      rintro caller q ⟨⟩
  | fence => cases List.mem_singleton.mp hw
  | panic | note | enter | task | selfWait | isMigrating | releaseLane | release => cases hw

/-- So it does after the migrations that it requests. -/
theorem Call.spares_tasks (hp : p.SparesLane who.isLane) (h : Call e who p events e' after)
    (t : MigrationTask Note) (ht : t ∈ requestedIn events) : (Access.migration t).SparesLane := by
  cases h with
  | task hrequest =>
      cases List.mem_singleton.mp ht
      cases hrequest with
      | migrate m completion next =>
          rintro caller q ⟨⟩
          exact hp.1 _
      | migrateBlocking hwho m next =>
          rintro caller q ⟨⟩
          exact hp _
  | panic | note | run | runAsync | enter | fence | selfWait | isMigrating | releaseLane
  | release =>
      cases ht

/-- Whoever goes on after an access keeps the migration lane free. -/
theorem Spared.ended (hs : e.Spared) (he : e.Ordered) (h : e.Turn events e') {a : Access Note}
    (hqueued : queuedIn events = []) (hrequested : requestedIn events = [])
    (hended : endedIn events = [a]) : a.SparesLane := by
  have hpending := h.pending he
  have htasks := h.tasks he
  rw [hqueued, hended, List.append_nil] at hpending
  rw [hrequested, hended, List.append_nil] at htasks
  cases a with
  | work w => exact hs.work w (hpending ▸ List.mem_cons_self)
  | migration t => exact hs.tasks t (htasks ▸ List.mem_cons_self)

/-- Every turn keeps the programs such that they leave the migration lane free. -/
theorem Turn.spared (he : e.Ordered) (ha : e.Answered) (hs : e.Spared) (h : e.Turn events e') :
    e'.Spared := by
  have hpending := h.pending he
  have htasks := h.tasks he
  -- What is before the lanes was there or has just been queued.
  have hwork (w : Work Note) (hw : .work w ∈ e'.pending) :
      .work w ∈ e.pending ∨ .work w ∈ queuedIn events :=
    List.mem_append.mp (hpending ▸ List.mem_append_right _ hw)
  have htask (t : MigrationTask Note) (ht : t ∈ e'.tasks) :
      t ∈ e.tasks ∨ t ∈ requestedIn events :=
    List.mem_append.mp (htasks ▸ List.mem_append_right _ ht)
  cases h.moves ha with
  | stay hqueued hrequested hended hsubmission hprograms =>
      rw [hqueued] at hwork
      rw [hrequested] at htask
      refine ⟨?_, ?_, ?_, ?_⟩
      · intro who p hprogram
        exact hs.programs who p (hprograms who ▸ hprogram)
      · rw [hprograms]
        exact hs.lane
      · exact fun w hw => hs.work w ((hwork w hw).resolve_right List.not_mem_nil)
      · exact fun t ht => hs.tasks t ((htask t ht).resolve_right List.not_mem_nil)
  | @resume a caller q hresumes hwaits hidle hqueued hrequested hended hsubmission hprograms =>
      have hq := hs.ended he h hqueued hrequested hended caller q hresumes
      rw [hqueued] at hwork
      rw [hrequested] at htask
      refine ⟨?_, ?_, ?_, ?_⟩
      · intro who p hprogram
        rw [hprograms, programOf_resume] at hprogram
        split at hprogram
        · rename_i hcaller
          rw [eq_of_programOf_resume hprogram, ← hcaller]
          exact hq
        · exact hs.programs who p hprogram
      · rw [hprograms]
        cases caller with
        | client i => exact hs.lane
        | migrationLane => rintro ⟨⟩
      · exact fun w hw => hs.work w ((hwork w hw).resolve_right List.not_mem_nil)
      · exact fun t ht => hs.tasks t ((htask t ht).resolve_right List.not_mem_nil)
  | @call caller q e₁ after hprogram hcall hsubmission hprograms =>
      have hq := hs.programs caller q hprogram
      refine ⟨?_, ?_, ?_, ?_⟩
      · intro who p hafter
        rw [hprograms] at hafter
        split at hafter
        · rename_i hcaller
          subst hcaller
          exact hcall.spares_program hq p (Option.some.inj hafter)
        · exact hs.programs who p hafter
      · rw [hprograms]
        split
        · rename_i hcaller
          subst hcaller
          intro hafter
          exact hcall.spares_lane hq (Option.some.inj hafter)
        · exact hs.lane
      · exact fun w hw => (hwork w hw).elim (hs.work w) (hcall.spares_work hq w)
      · exact fun t ht => (htask t ht).elim (hs.tasks t) (hcall.spares_tasks hq t)
  | finish caller last hqueued hrequested hended hsubmission hbefore hlast hprograms =>
      rw [hqueued] at hwork
      rw [hrequested] at htask
      refine ⟨?_, ?_, ?_, ?_⟩
      · intro who p hprogram
        rw [hprograms] at hprogram
        split at hprogram
        · rcases hlast with rfl | rfl <;> cases hprogram
          trivial
        · exact hs.programs who p hprogram
      · rw [hprograms]
        split
        · rcases hlast with rfl | rfl <;> rintro ⟨⟩
        · exact hs.lane
      · exact fun w hw => hs.work w ((hwork w hw).resolve_right List.not_mem_nil)
      · exact fun t ht => hs.tasks t ((htask t ht).resolve_right List.not_mem_nil)

/-- Where completions run no jobs the lanes never cross. -/
theorem Run.spared (he : e.Ordered) (ha : e.Answered) (hs : e.Spared) (h : Run e events e') :
    e'.Spared := by
  induction h with
  | refl => exact hs
  | tail hrun hturn ih => exact hturn.spared (hrun.ordered he) (hrun.answered he ha) ih

end

/-! ## When an engine deadlocks -/

/-- An engine that somebody holds deadlocks just when its lanes have crossed and no client has
anything left that it can do; where completions of migrations run no jobs it never does. -/
theorem Reaches.deadlocked_iff {accessName migrationName : String} {ws : Workspace Note}
    {clients : List (Client Note)} {e : Engine Note}
    (h : Reaches { start accessName migrationName ws with clients := clients.map .running } e)
    (hheld : e.Held) :
    (e.Deadlocked ↔ e.Crossed ∧ ∀ i, e.moveClient i = none) ∧
      ((∀ p ∈ clients, p.SparesLane false) → ¬ e.Deadlocked) := by
  obtain ⟨events, hrun⟩ := reaches_iff_run.mp h
  have hfirst := ordered_start accessName migrationName ws (clients.map Progress.running)
  have hanswered := answered_start accessName migrationName ws clients
  have he := hrun.ordered hfirst
  have ha := hrun.answered hfirst hanswered
  refine ⟨⟨?_, ?_⟩, ?_⟩
  · intro hdeadlocked
    exact ⟨hdeadlocked.crossed he ha hheld, fun i => hdeadlocked.stuck (.client i)⟩
  · rintro ⟨hcrossed, hclients⟩
    refine ⟨⟨.migrationLane, programOf_lane.mpr hcrossed.migrationLane⟩, fun thread => ?_⟩
    cases thread with
    | access => exact hcrossed.stuck.1
    | migration => exact hcrossed.stuck.2
    | client i => exact hclients i
  · intro hclients hdeadlocked
    have hs := hrun.spared hfirst hanswered (spared_start accessName migrationName ws hclients)
    have hcrossed := hdeadlocked.crossed he ha hheld
    exact hs.lane (programOf_lane.mpr hcrossed.migrationLane)

/-! ## Two migrations, the first with a completion that runs a job -/

/-- A migration with nothing to do. -/
def standing : Migration Unit := .new 0 fun _ => Job.ofDb (pure ())

/-- One client's migration has a completion that runs a job; another client requests a migration. -/
def crossing : Engine Unit :=
  { start "access" "migration" ⟨.inMemory, [], false⟩ with
    clients := [.migrate standing (fun _ => .run (Job.ofDb Db.userVersion) fun _ => .done) .done,
      .migrate standing (fun _ => .done) .done].map .running }

/-- Both migrations can be requested before anything else happens. -/
theorem crossing_requested : ∃ events, Run crossing events { crossing with
    accessQueue := [.fence 1, .fence 2]
    migrationQueue :=
      [.task ⟨1, standing, .callback fun _ => .run (Job.ofDb Db.userVersion) fun _ => .done⟩,
        .task ⟨2, standing, .callback fun _ => .done⟩]
    entered := 2, clients := [.running .done, .running .done] } := by
  have h₀ : Run crossing [] crossing := .refl
  have h₁ := h₀.tail (.client 0 rfl (.enter (.migrate _ _ _) rfl))
  have h₂ := h₁.tail (.client 0 rfl (.fence (.migrate _ _ _) rfl))
  have h₃ := h₂.tail (.client 0 rfl (.task (.migrate _ _ _) rfl))
  have h₄ := h₃.tail (.client 1 rfl (.enter (.migrate _ _ _) rfl))
  have h₅ := h₄.tail (.client 1 rfl (.fence (.migrate _ _ _) rfl))
  have h₆ := h₅.tail (.client 1 rfl (.task (.migrate _ _ _) rfl))
  exact ⟨_, h₆⟩

/-- Then the completion of the first migration begins, with the second fence in the queue. -/
theorem crossing_completing : ∃ events, Run crossing events { crossing with
    accessQueue := [.fence 2]
    accessLane := .fenced 1
    migrationQueue := [.task ⟨2, standing, .callback fun _ => .done⟩]
    migrationLane := .completing (.running (.run (Job.ofDb Db.userVersion) fun _ => .done))
    reached := [1], entered := 2, left := 1, clients := [.running .done, .running .done] } := by
  obtain ⟨_, h₀⟩ := crossing_requested
  have h₁ := h₀.tail (.reachFence rfl rfl)
  have h₂ := h₁.tail (.takeTask rfl rfl)
  have h₃ := h₂.tail (.begin rfl (.head _))
  have h₄ := h₃.tail (.migrate rfl)
  exact ⟨_, h₄⟩

/-- The job of the completion gets behind the second fence: the lanes cross, and neither client has
anything left to do. -/
theorem crossing_reaches : ∃ e, Reaches crossing e ∧
    e.Held ∧ e.Crossed ∧ ∀ i, e.moveClient i = none := by
  obtain ⟨_, h₀⟩ := crossing_completing
  have h₁ := h₀.tail (.callback rfl (.run _ _))
  have h₂ := h₁.tail (.leaveFence rfl (Nat.le_refl 1))
  have h₃ := h₂.tail (.reachFence rfl rfl)
  refine ⟨_, reaches_iff_run.mpr ⟨_, h₃⟩, ⟨?_, ?_, ?_, ?_⟩, ⟨rfl, 2, rfl, Nat.lt_succ_self 1⟩, ?_⟩
  · rintro (_ | ⟨_, ⟨⟩⟩)
  · rintro ⟨⟩
  · rintro (_ | ⟨_, ⟨⟩⟩)
  · rintro ⟨⟩
  · rintro (_ | _ | i) <;> rfl

/-- Calls that wait need not get their replies: the completion of the first migration waits for its
job for ever. -/
theorem crossing_deadlocks : ∃ e, Reaches crossing e ∧ e.Held ∧ e.Deadlocked ∧
    e.programOf .migrationLane = some .waiting := by
  obtain ⟨e, hreaches, hheld, hcrossed, hclients⟩ := crossing_reaches
  have hwaiting := programOf_lane.mpr hcrossed.migrationLane
  refine ⟨e, hreaches, hheld, ⟨⟨.migrationLane, hwaiting⟩, ?_⟩, hwaiting⟩
  rintro (_ | _ | i)
  · exact hcrossed.stuck.1
  · exact hcrossed.stuck.2
  · exact hclients i

/-- The engine of the two migrations comes to a deadlock, and an engine with the second one alone
has not got one. -/
theorem crossing_deadlocked_iff :
    (∃ e : Engine Unit, e.Held ∧ e.Deadlocked) ∧
      ¬ ({ start "access" "migration" ⟨.inMemory, [], false⟩ with
        clients := [Client.migrate standing (fun _ => .done) .done].map .running } :
          Engine Unit).Deadlocked := by
  constructor
  · obtain ⟨e, hreaches, hheld, hcrossed, hclients⟩ := crossing_reaches
    exact ⟨e, hheld, (Reaches.deadlocked_iff hreaches hheld).1.mpr ⟨hcrossed, hclients⟩⟩
  · refine (Reaches.deadlocked_iff (.refl _) ⟨?_, ?_, ?_, ?_⟩).2 ?_
    · rintro ⟨⟩
    · rintro ⟨⟩
    · rintro ⟨⟩
    · rintro ⟨⟩
    · exact List.forall_mem_singleton.mpr ⟨fun _ => trivial, trivial⟩

end Engine

end SqlStore
