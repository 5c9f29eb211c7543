/-
# Tickets

A request for a migration puts a fence into one queue and a task into the other, and the two lanes
meet at the ticket that both carry.  What makes them meet is that the tickets of the fences and of
the tasks that are not done are consecutive in both queues and begin right after the largest ticket
that has left the barrier.  A migration can therefore only run while the access lane stands at its
fence.

* `Tickets`, `Tickets.Step` : the tickets of an engine and how they change;
* `Tickets.Valid.step` : the tickets stay consecutive;
* `Engine.pending`, `Engine.tasks` : what the two lanes have before them;
* `Engine.serve_agrees`, `Engine.migrate_agrees` : what an access changes of that;
* `Engine.Call.pending`, `Engine.Call.tasks`, `Engine.Call.tickets` : what a call does to it.
-/
import SqlStore.Proofs.Engine.Turn

namespace SqlStore

/-! ## Tickets alone -/

/-- The tickets of the fences and tasks that are not done, and the counters of the barrier. -/
structure Tickets where
  fences : List Nat
  tasks : List Nat
  left : Nat
  entered : Nat
  submission : Option Submission

namespace Tickets

/-- The tickets given out and not done stand in both queues in order, without a gap, but for the
one of a request on its way. -/
structure Valid (t : Tickets) : Prop where
  fences : t.fences = List.range' (t.left + 1) t.fences.length
  tasks : t.tasks = List.range' (t.left + 1) t.tasks.length
  ticket : ∀ s ∈ t.submission, s.ticket = t.entered
  fenceCount :
    t.left + t.fences.length + (if t.submission.any (!·.fenced) then 1 else 0) = t.entered
  taskCount : t.left + t.tasks.length + (if t.submission.isSome then 1 else 0) = t.entered

/-- A request takes a ticket, posts the fence, posts the task; a migration leaves the barrier. -/
inductive Step (t : Tickets) : Tickets → Prop
  | enter (who : Caller) (hfree : t.submission = none) :
      Step t { t with entered := t.entered + 1, submission := some ⟨who, t.entered + 1, false⟩ }
  | fence {who : Caller} {ticket : Nat} (hheld : t.submission = some ⟨who, ticket, false⟩) :
      Step t { t with fences := t.fences ++ [ticket], submission := some ⟨who, ticket, true⟩ }
  | task {who : Caller} {ticket : Nat} (hheld : t.submission = some ⟨who, ticket, true⟩) :
      Step t { t with tasks := t.tasks ++ [ticket], submission := none }
  | leave {ticket : Nat} {fences tasks : List Nat} (hfences : t.fences = ticket :: fences)
      (htasks : t.tasks = ticket :: tasks) :
      Step t { t with fences, tasks, left := max t.left ticket }

/-- Consecutive numbers go on with the next one. -/
theorem range'_append_next (n : Nat) (xs : List Nat) (hxs : xs = List.range' (n + 1) xs.length)
    {x : Nat} (hx : x = n + xs.length + 1) :
    xs ++ [x] = List.range' (n + 1) (xs ++ [x]).length := by
  rw [List.length_append, List.length_singleton, List.range'_concat, ← hxs, hx]
  congr 2
  omega

/-- Consecutive numbers without the first one. -/
theorem range'_tail {n x : Nat} {xs : List Nat}
    (h : x :: xs = List.range' (n + 1) (x :: xs).length) :
    x = n + 1 ∧ xs = List.range' (n + 1 + 1) xs.length := by
  rw [List.length_cons, List.range'_succ] at h
  exact List.cons_eq_cons.mp h

/-- The first fence that is not done carries the ticket that leaves next. -/
theorem Valid.head_fences {t : Tickets} (h : t.Valid) {ticket : Nat} {fences : List Nat}
    (hfences : t.fences = ticket :: fences) : ticket = t.left + 1 := by
  have hconsecutive := h.fences
  rw [hfences] at hconsecutive
  exact (range'_tail hconsecutive).1

/-- So does the first task that is not done. -/
theorem Valid.head_tasks {t : Tickets} (h : t.Valid) {ticket : Nat} {tasks : List Nat}
    (htasks : t.tasks = ticket :: tasks) : ticket = t.left + 1 := by
  have hconsecutive := h.tasks
  rw [htasks] at hconsecutive
  exact (range'_tail hconsecutive).1

/-- The tickets stay consecutive. -/
theorem Valid.step {t t' : Tickets} (h : t.Valid) (hstep : t.Step t') : t'.Valid := by
  obtain ⟨hfences, htasks, hticket, hfenceCount, htaskCount⟩ := h
  cases hstep with
  | enter who hfree =>
      simp only [hfree, Option.any_none, Option.isSome_none] at hfenceCount htaskCount
      refine ⟨hfences, htasks, ?_, ?_, ?_⟩
      · rintro s ⟨⟩
        rfl
      · simpa using hfenceCount
      · simpa using htaskCount
  | @fence who ticket hheld =>
      have hlast : ticket = t.entered := hticket ⟨who, ticket, false⟩ hheld
      simp only [hheld, Option.any_some, Option.isSome_some] at hfenceCount htaskCount
      refine ⟨range'_append_next _ _ hfences ?_, htasks, ?_, ?_, ?_⟩
      · rw [hlast, ← hfenceCount]
        rfl
      · rintro s ⟨⟩
        exact hlast
      · simpa [← Nat.add_assoc] using hfenceCount
      · simpa using htaskCount
  | @task who ticket hheld =>
      have hlast : ticket = t.entered := hticket ⟨who, ticket, true⟩ hheld
      simp only [hheld, Option.any_some, Option.isSome_some] at hfenceCount htaskCount
      refine ⟨hfences, range'_append_next _ _ htasks ?_, ?_, ?_, ?_⟩
      · rw [hlast, ← htaskCount]
        rfl
      · rintro s ⟨⟩
      · simpa using hfenceCount
      · simpa [← Nat.add_assoc] using htaskCount
  | @leave ticket fences tasks hheadf hheadt =>
      rw [hheadf] at hfences hfenceCount
      rw [hheadt] at htasks htaskCount
      obtain ⟨hnext, hfences'⟩ := range'_tail hfences
      obtain ⟨-, htasks'⟩ := range'_tail htasks
      have hleft : max t.left ticket = t.left + 1 := by omega
      rw [List.length_cons] at hfenceCount htaskCount
      refine ⟨?_, ?_, hticket, ?_, ?_⟩
      · simpa only [hleft] using hfences'
      · simpa only [hleft] using htasks'
      · simp only [hleft]
        omega
      · simp only [hleft]
        omega

end Tickets

variable {Note : Type}

/-! ## What an engine has before it -/

namespace AccessMessage

/-- Whether the message stands for an access to the database. -/
@[simp] def isAccess : AccessMessage Note → Bool
  | work _ | fence _ => true
  | shutdown => false

/-- The ticket of a fence. -/
@[simp] def ticket? : AccessMessage Note → Option Nat
  | fence ticket => some ticket
  | _ => none

/-- Whether the migration lane waits for the reply. -/
def callsLane : AccessMessage Note → Bool
  | work (.call _ .migrationLane _) => true
  | _ => false

end AccessMessage

/-- The task of a message. -/
@[simp] def MigrationMessage.task? : MigrationMessage Note → Option (MigrationTask Note)
  | task t => some t
  | shutdown => none

/-- The access of a job that is being served. -/
def AccessLane.access : AccessLane Note → List (Access Note)
  | serving w => [.work w]
  | _ => []

/-- The message that the access lane has in hand, unless it is done with it. -/
def AccessLane.inHand (left : Nat) : AccessLane Note → List (AccessMessage Note)
  | serving w => [.work w]
  | fenced ticket => if ticket ≤ left then [] else [.fence ticket]
  | idle | stopped => []

/-- The task of a migration. -/
@[simp] def Access.migration? : Access Note → Option (MigrationTask Note)
  | work _ => none
  | migration t => some t

namespace MigrationLane

/-- The task that the migration lane has in hand. -/
def inHand : MigrationLane Note → List (MigrationTask Note)
  | awaiting t | migrating t => [t]
  | _ => []

/-- The access of a migration that runs. -/
def access : MigrationLane Note → List (Access Note)
  | migrating t => [.migration t]
  | _ => []

/-- How many replies the migration lane waits for. -/
def calls : MigrationLane Note → Nat
  | completing .waiting => 1
  | _ => 0

end MigrationLane

namespace Engine

/-- The messages that an access still has to take the place of, in their order. -/
def pending (e : Engine Note) : List (AccessMessage Note) :=
  e.accessLane.inHand e.left ++ e.accessQueue.filter AccessMessage.isAccess

/-- The tasks that are not done, in their order. -/
def tasks (e : Engine Note) : List (MigrationTask Note) :=
  e.migrationLane.inHand ++ e.migrationQueue.filterMap MigrationMessage.task?

/-- The accesses that are going on. -/
def current (e : Engine Note) : List (Access Note) := e.accessLane.access ++ e.migrationLane.access

/-- The tickets of an engine. -/
def tickets (e : Engine Note) : Tickets where
  fences := e.pending.filterMap AccessMessage.ticket?
  tasks := e.tasks.map (·.ticket)
  left := e.left
  entered := e.entered
  submission := e.submission

/-! ## Changes that do not matter -/

/-- Nothing that the lanes and the tickets depend on is different. -/
structure Agrees (e e' : Engine Note) : Prop where
  accessLane : e.accessLane = e'.accessLane
  migrationLane : e.migrationLane = e'.migrationLane
  reached : e.reached = e'.reached
  accessQueue : e.accessQueue.filter AccessMessage.isAccess
    = e'.accessQueue.filter AccessMessage.isAccess
  migrationQueue : e.migrationQueue.filterMap MigrationMessage.task?
    = e'.migrationQueue.filterMap MigrationMessage.task?
  left : e.left = e'.left
  entered : e.entered = e'.entered
  submission : e.submission = e'.submission

namespace Agrees

variable {e e' : Engine Note}

theorem refl (e : Engine Note) : e.Agrees e := ⟨rfl, rfl, rfl, rfl, rfl, rfl, rfl, rfl⟩

theorem trans {e'' : Engine Note} (h : e.Agrees e') (h' : e'.Agrees e'') : e.Agrees e'' :=
  ⟨h.accessLane.trans h'.accessLane, h.migrationLane.trans h'.migrationLane,
    h.reached.trans h'.reached, h.accessQueue.trans h'.accessQueue,
    h.migrationQueue.trans h'.migrationQueue, h.left.trans h'.left, h.entered.trans h'.entered,
    h.submission.trans h'.submission⟩

theorem withMigrationLane (h : e.Agrees e') (lane : MigrationLane Note) :
    ({ e with migrationLane := lane } : Engine Note).Agrees { e' with migrationLane := lane } :=
  { h with migrationLane := rfl }

theorem withLeft (h : e.Agrees e') (left : Nat) :
    ({ e with left } : Engine Note).Agrees { e' with left } :=
  { h with left := rfl }

theorem pending (h : e.Agrees e') : e.pending = e'.pending := by
  rw [Engine.pending, Engine.pending, h.accessLane, h.left, h.accessQueue]

theorem tasks (h : e.Agrees e') : e.tasks = e'.tasks := by
  rw [Engine.tasks, Engine.tasks, h.migrationLane, h.migrationQueue]

theorem tickets (h : e.Agrees e') : e.tickets = e'.tickets := by
  rw [Engine.tickets, Engine.tickets, h.pending, h.tasks, h.left, h.entered, h.submission]

end Agrees

/-- Telling the lanes to stop puts nothing before them. -/
theorem shutDown_agrees (e : Engine Note) : e.shutDown.Agrees e := by
  refine ⟨rfl, rfl, rfl, ?_, ?_, rfl, rfl, rfl⟩
  · simp [shutDown, post, postMigration]
  · simp [shutDown, post, postMigration]

/-- A workspace changes hands without a change to what is before the lanes. -/
theorem withWorkspace_agrees (e : Engine Note) (ws : Workspace Note) :
    (e.withWorkspace ws).Agrees e := by
  unfold withWorkspace
  extract_lets e'
  have he' : e'.Agrees e := ⟨rfl, rfl, rfl, rfl, rfl, rfl, rfl, rfl⟩
  split
  · exact (shutDown_agrees e').trans he'
  · exact he'

theorem resume_client_agrees (e : Engine Note) (p : Client Note) (i : Nat) :
    (e.resume p (.client i)).Agrees e := ⟨rfl, rfl, rfl, rfl, rfl, rfl, rfl, rfl⟩

/-- A job that has been served gives its reply: the migration lane goes on if it waits for it, and
nothing else is different. -/
theorem serve_agrees (e : Engine Note) (w : Work Note) :
    ∃ lane, (e.serve w).Agrees { e with migrationLane := lane } ∧
      ((AccessMessage.work w).callsLane = false ∧ lane = e.migrationLane ∨
        (AccessMessage.work w).callsLane = true ∧ ∃ p, lane = .completing (.running p)) := by
  cases w with
  | call job caller resume =>
      cases caller with
      | client i =>
          refine ⟨e.migrationLane, ?_, .inl ⟨rfl, rfl⟩⟩
          exact (resume_client_agrees _ _ i).trans (withWorkspace_agrees e _)
      | migrationLane =>
          exact ⟨_, (withWorkspace_agrees e _).withMigrationLane _, .inr ⟨rfl, _, rfl⟩⟩
  | async job completion =>
      exact ⟨e.migrationLane, withWorkspace_agrees e _, .inl ⟨rfl, rfl⟩⟩

/-- A migration that has run has left the barrier, and its lane is free or runs its completion. -/
theorem migrate_agrees (e : Engine Note) (t : MigrationTask Note) :
    ∃ lane, (e.migrate t).Agrees { e with left := max e.left t.ticket, migrationLane := lane } ∧
      (lane = .idle ∨ ∃ p, lane = .completing (.running p)) := by
  have hleft (ws : Workspace Note) := (withWorkspace_agrees e ws).withLeft (max e.left t.ticket)
  obtain ⟨ticket, m, completion⟩ := t
  cases completion with
  | callback program =>
      exact ⟨_, (hleft _).withMigrationLane _, .inr ⟨_, rfl⟩⟩
  | reply caller resume =>
      cases caller with
      | client i =>
          refine ⟨.idle, ?_, .inl rfl⟩
          exact (resume_client_agrees _ _ i).trans ((hleft _).withMigrationLane .idle)
      | migrationLane =>
          exact ⟨_, (hleft _).withMigrationLane _, .inr ⟨_, rfl⟩⟩

/-! ## What a call puts into the queues -/

section

variable {e e' : Engine Note} {who : Caller} {p : Client Note} {events : List (Event Note)}
  {after : Progress Note}

theorem Call.pending (h : Call e who p events e' after) :
    e'.pending = e.pending ++ queuedIn events := by
  cases h with
  | run | runAsync | fence =>
      simp [Engine.pending, post]
  | releaseLane | release =>
      rw [(shutDown_agrees e).pending]
      simp
  | panic | note | enter | task | selfWait | isMigrating =>
      simp [Engine.pending, postMigration]

theorem Call.tasks (h : Call e who p events e' after) :
    e'.tasks = e.tasks ++ requestedIn events := by
  cases h with
  | task => simp [Engine.tasks, postMigration]
  | releaseLane | release =>
      rw [(shutDown_agrees e).tasks]
      simp
  | panic | note | run | runAsync | enter | fence | selfWait | isMigrating =>
      simp [Engine.tasks, post]

/-- A call moves neither lane. -/
theorem Call.lanes (h : Call e who p events e' after) :
    e'.accessLane = e.accessLane ∧ e'.migrationLane = e.migrationLane ∧
      e'.reached = e.reached ∧ e'.left = e.left := by
  cases h <;> exact ⟨rfl, rfl, rfl, rfl⟩

/-- A call is no access. -/
theorem Call.accesses (h : Call e who p events e' after) :
    begunIn events = [] ∧ endedIn events = [] := by
  cases h <;> exact ⟨rfl, rfl⟩

/-- A call does at most one part of a request. -/
theorem Call.tickets (h : Call e who p events e' after) :
    e'.tickets = e.tickets ∨ e.tickets.Step e'.tickets := by
  have htickets : e'.tickets =
      { fences := e.tickets.fences ++ (queuedIn events).filterMap AccessMessage.ticket?
        tasks := e.tickets.tasks ++ (requestedIn events).map (·.ticket)
        left := e'.left, entered := e'.entered, submission := e'.submission } := by
    rw [Engine.tickets, h.pending, h.tasks]
    simp [Engine.tickets]
  rw [htickets]
  cases h with
  | panic | note | run | runAsync | selfWait | isMigrating | releaseLane | release =>
      simp only [queuedIn_cons, queuedIn_nil, requestedIn_cons, requestedIn_nil, Event.queued?,
        Event.requested?, Option.toList_some, Option.toList_none, List.append_nil,
        List.filterMap_cons, List.filterMap_nil, AccessMessage.ticket?, List.map_nil]
      exact .inl rfl
  | enter hp hfree =>
      simp only [queuedIn_nil, requestedIn_nil, List.filterMap_nil, List.map_nil, List.append_nil]
      exact .inr (.enter who hfree)
  | fence hp hheld =>
      simp only [requestedIn_cons, requestedIn_nil, Event.requested?, Option.toList_none,
        List.map_nil, List.append_nil]
      exact .inr (.fence hheld)
  | task hp hheld =>
      simp only [queuedIn_cons, queuedIn_nil, Event.queued?, Option.toList_none,
        List.filterMap_nil, List.append_nil]
      exact .inr (.task hheld)

/-- Only a program on the migration lane makes that lane wait for a reply. -/
theorem Call.calls (h : Call e who p events e' after) :
    (queuedIn events).countP AccessMessage.callsLane
      = if who = .migrationLane then (MigrationLane.completing after).calls else 0 := by
  have hrequest {m : Migration Note} {c : Completion Note} (hp : Requests who p m c after) :
      (if who = .migrationLane then (MigrationLane.completing after).calls else 0) = 0 := by
    cases hp with
    | migrate => simp [MigrationLane.calls]
    | migrateBlocking hwho => simp [hwho]
  cases h with
  | run => cases who <;> rfl
  | task hp =>
      rw [hrequest hp]
      rfl
  | release hwho =>
      subst hwho
      rfl
  | panic | note | runAsync | enter | fence | selfWait | isMigrating | releaseLane =>
      simp [AccessMessage.callsLane, MigrationLane.calls]

end

end Engine

end SqlStore
