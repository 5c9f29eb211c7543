/-
# The order of an engine

The two lanes meet at tickets.  An engine is ordered if its tickets are valid, a migration runs
only while the access lane stands at its fence, and a reply that the migration lane waits for is on
its way; every turn of every thread keeps an engine ordered.  What the turns do to the messages and
tasks before the lanes follows: a message leaves when its access ends and not before, and no access
begins while another is going on.

* `Engine.Ordered` : the invariant of engines;
* `Engine.Turn.pending`, `Engine.Turn.tasks`, `Engine.Turn.current` : what a turn does;
* `Engine.Turn.ordered`, `Engine.Run.ordered` : turns and runs keep the invariant.
-/
import SqlStore.Proofs.Engine.Tickets

namespace SqlStore.Engine

variable {Note : Type}

/-- The tickets are valid, a fence that has been reached is done or in hand, a migration runs only
while its fence is in hand, and the migration lane waits for as many replies as it is going to
get. -/
structure Ordered (e : Engine Note) : Prop where
  tickets : e.tickets.Valid
  reached : ∀ ticket ∈ e.reached, ticket ≤ e.left ∨ e.accessLane = .fenced ticket
  migrating : ∀ t, e.migrationLane = .migrating t → e.accessLane = .fenced t.ticket
  calls : e.pending.countP AccessMessage.callsLane = e.migrationLane.calls

/-- An engine with nothing to do is ordered, whatever its clients are about to do. -/
theorem ordered_start (accessName migrationName : String) (ws : Workspace Note)
    (clients : List (Progress Note)) :
    ({ start accessName migrationName ws with clients } : Engine Note).Ordered := by
  refine ⟨⟨rfl, rfl, ?_, rfl, rfl⟩, ?_, ?_, rfl⟩
  · rintro s ⟨⟩
  · intro ticket hticket
    cases hticket
  · rintro t ⟨⟩

/-! ## What a turn does -/

section

variable {e e' : Engine Note} {events : List (Event Note)}

/-- The first message of the queue is before the access lane once that is free. -/
theorem pending_of_idle {m : AccessMessage Note} {rest : List (AccessMessage Note)}
    (hlane : e.accessLane = .idle) (hqueue : e.accessQueue = m :: rest) :
    e.pending = (m :: rest).filter AccessMessage.isAccess := by
  rw [Engine.pending, hlane, hqueue, AccessLane.inHand, List.nil_append]

/-- The first fence that is not done carries the ticket that leaves next. -/
theorem Ordered.next_fence (he : e.Ordered) {ticket : Nat} {rest : List (AccessMessage Note)}
    (hpending : e.pending = .fence ticket :: rest) : ticket = e.left + 1 := by
  have hfences : e.tickets.fences = ticket :: rest.filterMap AccessMessage.ticket? := by
    rw [Engine.tickets, hpending]
    rfl
  exact he.tickets.head_fences hfences

/-- So does the first task that is not done. -/
theorem Ordered.next_task (he : e.Ordered) {t : MigrationTask Note}
    {rest : List (MigrationTask Note)} (htasks : e.tasks = t :: rest) : t.ticket = e.left + 1 := by
  have htickets : e.tickets.tasks = t.ticket :: rest.map (·.ticket) := by
    rw [Engine.tickets, htasks]
    rfl
  exact he.tickets.head_tasks htickets

/-- A task whose fence has been reached has it in hand. -/
theorem Ordered.fenced (he : e.Ordered) {t : MigrationTask Note} {rest : List (MigrationTask Note)}
    (htasks : e.tasks = t :: rest) (hreached : t.ticket ∈ e.reached) :
    e.accessLane = .fenced t.ticket := by
  have hnext := he.next_task htasks
  rcases he.reached t.ticket hreached with hleft | hlane
  · omega
  · exact hlane

/-- The fence of a migration that runs is the next message to be done. -/
theorem Ordered.pending_migrating (he : e.Ordered) {t : MigrationTask Note}
    (hlane : e.migrationLane = .migrating t) :
    t.ticket = e.left + 1 ∧
      e.pending = .fence t.ticket :: e.accessQueue.filter AccessMessage.isAccess := by
  have htasks : e.tasks = t :: e.migrationQueue.filterMap MigrationMessage.task? := by
    rw [Engine.tasks, hlane]
    rfl
  have hnext := he.next_task htasks
  have hleft : ¬ t.ticket ≤ e.left := by omega
  refine ⟨hnext, ?_⟩
  rw [Engine.pending, he.migrating t hlane, AccessLane.inHand, if_neg hleft]
  rfl

/-- While a job is served whose reply goes to the migration lane, that lane waits for it. -/
theorem Ordered.waiting (he : e.Ordered) {w : Work Note} (hlane : e.accessLane = .serving w)
    (hcalls : (AccessMessage.work w).callsLane = true) :
    e.migrationLane = .completing .waiting ∧
      (e.accessQueue.filter AccessMessage.isAccess).countP AccessMessage.callsLane = 0 := by
  have hcount := he.calls
  rw [Engine.pending, hlane, AccessLane.inHand, List.singleton_append,
    List.countP_cons_of_pos hcalls] at hcount
  rw [MigrationLane.calls.eq_def] at hcount
  split at hcount
  · rename_i hmigration
    exact ⟨hmigration, by omega⟩
  · omega

/-- No migration runs unless the access lane stands at a fence. -/
theorem Ordered.access_eq_nil (he : e.Ordered) (hlane : ∀ ticket, e.accessLane ≠ .fenced ticket) :
    e.migrationLane.access = [] := by
  cases hmigration : e.migrationLane with
  | migrating t => exact absurd (he.migrating t hmigration) (hlane t.ticket)
  | _ => rfl

/-- The message of an access is before the lanes until the access ends, and nothing else leaves. -/
theorem Turn.pending (he : e.Ordered) (h : e.Turn events e') :
    e.pending ++ queuedIn events = (endedIn events).map Access.message ++ e'.pending := by
  cases h with
  | takeWork hlane hqueue =>
      rw [pending_of_idle hlane hqueue]
      simp [Engine.pending, AccessLane.inHand, List.filter_cons]
  | @reachFence ticket rest hlane hqueue =>
      -- The fence in hand stays pending, because its ticket has not left the barrier.
      have hpending := pending_of_idle hlane hqueue
      have hnext := he.next_fence hpending
      have hleft : ¬ ticket ≤ e.left := by omega
      rw [hpending]
      simp [Engine.pending, AccessLane.inHand, hleft, List.filter_cons]
  | stopAccess hlane hqueue =>
      rw [pending_of_idle hlane hqueue]
      simp [Engine.pending, AccessLane.inHand]
  | @serve w hlane =>
      obtain ⟨lane, hagrees, -⟩ := serve_agrees { e with accessLane := .idle } w
      rw [hagrees.pending]
      simp [Engine.pending, hlane, AccessLane.inHand, ending, Access.message]
  | leaveFence hlane hleft => simp [Engine.pending, hlane, AccessLane.inHand, hleft]
  | takeTask | stopMigration | begin | complete => simp [Engine.pending]
  | @migrate t hlane =>
      obtain ⟨lane, hagrees, -⟩ := migrate_agrees e t
      -- The ticket leaves the barrier with its migration, and the fence is done.
      rw [hagrees.pending, (he.pending_migrating hlane).2]
      have hleft : t.ticket ≤ max e.left t.ticket := by omega
      simp [Engine.pending, he.migrating t hlane, AccessLane.inHand, ending, Access.message, hleft]
  | callback hlane hcall =>
      have hpending := hcall.pending
      simp only [hcall.accesses.2, List.map_nil, List.nil_append]
      exact hpending.symm
  | client i hclient hcall =>
      have hpending := hcall.pending
      simp only [hcall.accesses.2, List.map_nil, List.nil_append]
      exact hpending.symm
  | join => simp [Engine.pending]

/-- A task is before the migration lane until its migration ends, and nothing else leaves. -/
theorem Turn.tasks (he : e.Ordered) (h : e.Turn events e') :
    e.tasks ++ requestedIn events
      = (endedIn events).filterMap Access.migration? ++ e'.tasks := by
  cases h with
  | takeWork | reachFence | stopAccess | leaveFence | join => simp [Engine.tasks]
  | @serve w hlane =>
      obtain ⟨lane, hagrees, hreply⟩ := serve_agrees { e with accessLane := .idle } w
      -- The lane gets a reply only while it waits for one, and then it has no task in hand.
      have hnone : lane.inHand = e.migrationLane.inHand := by
        rcases hreply with ⟨-, rfl⟩ | ⟨hcalls, p, rfl⟩
        · rfl
        · rw [(he.waiting hlane hcalls).1]
          rfl
      rw [hagrees.tasks, Engine.tasks, Engine.tasks, hnone]
      simp [ending]
  | takeTask hlane hqueue | stopMigration hlane hqueue =>
      simp [Engine.tasks, hlane, hqueue, MigrationLane.inHand, List.filterMap_cons]
  | begin hlane => simp [Engine.tasks, hlane, MigrationLane.inHand]
  | @migrate t hlane =>
      obtain ⟨lane, hagrees, hdone⟩ := migrate_agrees e t
      have hnone : lane.inHand = [] := by
        rcases hdone with rfl | ⟨p, rfl⟩ <;> rfl
      rw [hagrees.tasks, Engine.tasks, Engine.tasks, hnone, hlane]
      simp [MigrationLane.inHand, ending]
  | complete hlane => simp [Engine.tasks, hlane, MigrationLane.inHand]
  | @callback p events e' after hlane hcall =>
      have hnone : e'.migrationLane.inHand = [] := by
        rw [hcall.lanes.2.1, hlane]
        rfl
      have htasks := hcall.tasks
      rw [Engine.tasks, hnone, List.nil_append] at htasks
      rw [← htasks, hcall.accesses.2]
      rfl
  | client i hclient hcall =>
      have htasks := hcall.tasks
      simp only [hcall.accesses.2, List.filterMap_nil, List.nil_append]
      exact htasks.symm

/-- At most one access is going on. -/
theorem Ordered.length_current (he : e.Ordered) : e.current.length ≤ 1 := by
  cases hlane : e.accessLane with
  | serving w =>
      have hnone := he.access_eq_nil (by simp [hlane])
      rw [Engine.current, hlane, hnone]
      exact Nat.le_refl 1
  | idle | fenced | stopped =>
      rw [Engine.current, hlane]
      cases e.migrationLane <;> simp [AccessLane.access, MigrationLane.access]

/-- An access begins only when none is going on, and goes on until it ends. -/
theorem Turn.current (he : e.Ordered) (h : e.Turn events e') :
    e.current ++ begunIn events = endedIn events ++ e'.current := by
  cases h with
  | takeWork hlane | reachFence hlane | stopAccess hlane =>
      have hnone := he.access_eq_nil (by simp [hlane])
      simp [Engine.current, hlane, hnone, AccessLane.access]
  | @serve w hlane =>
      have hnone := he.access_eq_nil (by simp [hlane])
      obtain ⟨lane, hagrees, hreply⟩ := serve_agrees { e with accessLane := .idle } w
      have hafter : lane.access = [] := by
        rcases hreply with ⟨-, rfl⟩ | ⟨-, p, rfl⟩
        · exact hnone
        · rfl
      rw [Engine.current, Engine.current, hlane, hnone, hagrees.accessLane, hagrees.migrationLane,
        hafter]
      rfl
  | @leaveFence ticket hlane hleft =>
      -- A fence is left when its migration has ended, and no other one can be going on.
      have hnone : e.migrationLane.access = [] := by
        cases hmigration : e.migrationLane with
        | migrating t =>
            have hnext := (he.pending_migrating hmigration).1
            have hfence := he.migrating t hmigration
            rw [hlane] at hfence
            cases hfence
            omega
        | _ => rfl
      simp [Engine.current, hlane, hnone, AccessLane.access]
  | takeTask hlane | stopMigration hlane | complete hlane =>
      simp [Engine.current, hlane, MigrationLane.access]
  | @begin t hlane hreached =>
      have htasks : e.tasks = t :: e.migrationQueue.filterMap MigrationMessage.task? := by
        rw [Engine.tasks, hlane]
        rfl
      have hfence := he.fenced htasks hreached
      simp [Engine.current, hlane, hfence, AccessLane.access, MigrationLane.access]
  | @migrate t hlane =>
      have hfence := he.migrating t hlane
      obtain ⟨lane, hagrees, hdone⟩ := migrate_agrees e t
      have hnone : lane.access = [] := by
        rcases hdone with rfl | ⟨p, rfl⟩ <;> rfl
      rw [Engine.current, Engine.current, hlane, hagrees.accessLane, hagrees.migrationLane, hnone,
        hfence]
      rfl
  | @callback p events e' after hlane hcall =>
      obtain ⟨haccess, -, -, -⟩ := hcall.lanes
      simp [Engine.current, hcall.accesses, hlane, haccess, MigrationLane.access]
  | @client i p events e' after hclient hcall =>
      obtain ⟨haccess, hmigration, -, -⟩ := hcall.lanes
      simp [Engine.current, hcall.accesses, haccess, hmigration]
  | join => simp [Engine.current]

/-- With the same fences and tasks before the lanes the tickets are the same. -/
theorem tickets_congr (hfences : e'.pending.filterMap AccessMessage.ticket?
      = e.pending.filterMap AccessMessage.ticket?) (htasks : e'.tasks = e.tasks)
    (hleft : e'.left = e.left) (hentered : e'.entered = e.entered)
    (hsubmission : e'.submission = e.submission) : e'.tickets = e.tickets := by
  rw [Engine.tickets, Engine.tickets, hfences, htasks, hleft, hentered, hsubmission]

/-- A turn changes the tickets by one step or not at all. -/
theorem Turn.tickets (he : e.Ordered) (h : e.Turn events e') :
    e'.tickets = e.tickets ∨ e.tickets.Step e'.tickets := by
  have hpending := h.pending he
  have htasks := h.tasks he
  -- A turn that queues and ends nothing leaves the fences and the tasks before the lanes.
  cases h with
  | takeWork | reachFence | stopAccess | leaveFence | takeTask | stopMigration | begin | complete
  | join =>
      simp only [queuedIn_cons, queuedIn_nil, requestedIn_cons, requestedIn_nil, endedIn_cons,
        endedIn_nil, Event.queued?, Event.requested?, Event.ended?, Option.toList_none,
        List.append_nil, List.map_nil, List.filterMap_nil, List.nil_append] at hpending htasks
      exact .inl (tickets_congr (congrArg _ hpending.symm) htasks.symm rfl rfl rfl)
  | @serve w hlane =>
      obtain ⟨lane, hagrees, -⟩ := serve_agrees { e with accessLane := .idle } w
      have hfences := congrArg (List.filterMap AccessMessage.ticket?) hpending
      simp [ending, Access.message] at hfences htasks
      exact .inl (tickets_congr hfences.symm htasks.symm hagrees.left hagrees.entered
        hagrees.submission)
  | @migrate t hlane =>
      obtain ⟨lane, hagrees, -⟩ := migrate_agrees e t
      have hfences := congrArg (List.filterMap AccessMessage.ticket?) hpending
      have htickets := congrArg (List.map (·.ticket)) htasks
      simp [ending, Access.message] at hfences htickets
      have hafter : (e.migrate t).tickets =
          { e.tickets with
            fences := (e.migrate t).pending.filterMap AccessMessage.ticket?
            tasks := (e.migrate t).tasks.map (·.ticket)
            left := max e.left t.ticket } := by
        rw [Engine.tickets, hagrees.left, hagrees.entered, hagrees.submission]
        rfl
      rw [hafter]
      exact .inr (.leave hfences htickets)
  | @callback p events e' after hlane hcall =>
      have hsame : ({ e' with migrationLane := .completing after } : Engine Note).tickets
          = e'.tickets := by
        refine tickets_congr rfl ?_ rfl rfl rfl
        simpa [hcall.accesses.2, ← hcall.tasks] using htasks.symm
      rw [hsame]
      exact hcall.tickets
  | client i hclient hcall => exact hcall.tickets

/-- A fence that has been reached is done or in hand. -/
theorem Turn.reached (he : e.Ordered) (h : e.Turn events e') :
    ∀ ticket ∈ e'.reached, ticket ≤ e'.left ∨ e'.accessLane = .fenced ticket := by
  -- Where the access lane stands at no fence, all that have been reached are done.
  have hdone (hlane : ∀ ticket, e.accessLane ≠ .fenced ticket) :
      ∀ ticket ∈ e.reached, ticket ≤ e.left := by
    intro ticket hticket
    rcases he.reached ticket hticket with hleft | hfence
    · exact hleft
    · exact absurd hfence (hlane ticket)
  cases h with
  | takeWork hlane | stopAccess hlane =>
      intro ticket hticket
      exact .inl (hdone (by simp [hlane]) ticket hticket)
  | reachFence hlane =>
      intro ticket hticket
      rcases List.mem_cons.mp hticket with rfl | hticket
      · exact .inr rfl
      · exact .inl (hdone (by simp [hlane]) ticket hticket)
  | @serve w hlane =>
      obtain ⟨lane, hagrees, -⟩ := serve_agrees { e with accessLane := .idle } w
      rw [hagrees.reached, hagrees.left]
      intro ticket hticket
      exact .inl (hdone (by simp [hlane]) ticket hticket)
  | leaveFence hlane hleft =>
      intro ticket hticket
      rcases he.reached ticket hticket with hleft' | hfence
      · exact .inl hleft'
      · rw [hlane] at hfence
        cases hfence
        exact .inl hleft
  | takeTask | stopMigration | begin | complete | join => exact he.reached
  | @migrate t hlane =>
      obtain ⟨lane, hagrees, -⟩ := migrate_agrees e t
      rw [hagrees.reached, hagrees.left, hagrees.accessLane]
      intro ticket hticket
      rcases he.reached ticket hticket with hleft | hfence
      · exact .inl (Nat.le_trans hleft (Nat.le_max_left _ _))
      · exact .inr hfence
  | callback hlane hcall =>
      obtain ⟨haccess, -, hreached, hleft⟩ := hcall.lanes
      rw [hreached, hleft, haccess]
      exact he.reached
  | client i hclient hcall =>
      obtain ⟨haccess, -, hreached, hleft⟩ := hcall.lanes
      rw [hreached, hleft, haccess]
      exact he.reached

/-- A migration runs only while its fence is in hand. -/
theorem Turn.migrating (he : e.Ordered) (h : e.Turn events e') :
    ∀ t, e'.migrationLane = .migrating t → e'.accessLane = .fenced t.ticket := by
  cases h with
  | takeWork hlane | stopAccess hlane | reachFence hlane =>
      intro t ht
      have hfence := he.migrating t ht
      rw [hlane] at hfence
      cases hfence
  | @serve w hlane =>
      obtain ⟨lane, hagrees, hreply⟩ := serve_agrees { e with accessLane := .idle } w
      intro t ht
      rw [hagrees.migrationLane] at ht
      rcases hreply with ⟨-, rfl⟩ | ⟨-, p, rfl⟩
      · have hfence := he.migrating t ht
        rw [hlane] at hfence
        cases hfence
      · cases ht
  | leaveFence hlane hleft =>
      intro t ht
      have hnext := (he.pending_migrating ht).1
      have hfence := he.migrating t ht
      rw [hlane] at hfence
      cases hfence
      omega
  | takeTask | stopMigration | complete => rintro t ⟨⟩
  | @begin t hlane hreached =>
      have htasks : e.tasks = t :: e.migrationQueue.filterMap MigrationMessage.task? := by
        rw [Engine.tasks, hlane]
        rfl
      rintro u ⟨⟩
      exact he.fenced htasks hreached
  | @migrate t hlane =>
      obtain ⟨lane, hagrees, hdone⟩ := migrate_agrees e t
      intro u hu
      rw [hagrees.migrationLane] at hu
      rcases hdone with rfl | ⟨p, rfl⟩ <;> cases hu
  | callback => rintro t ⟨⟩
  | client i hclient hcall =>
      obtain ⟨haccess, hmigration, -, -⟩ := hcall.lanes
      rw [haccess]
      intro t ht
      exact he.migrating t (hmigration ▸ ht)
  | join => exact he.migrating

/-- The migration lane waits for as many replies as it is going to get. -/
theorem Turn.calls (he : e.Ordered) (h : e.Turn events e') :
    e'.pending.countP AccessMessage.callsLane = e'.migrationLane.calls := by
  have hcount := congrArg (List.countP AccessMessage.callsLane) (h.pending he)
  rw [List.countP_append, List.countP_append, he.calls] at hcount
  cases h with
  | takeWork | stopAccess | reachFence | leaveFence | join => simpa using hcount.symm
  | @serve w hlane =>
      obtain ⟨lane, hagrees, hreply⟩ := serve_agrees { e with accessLane := .idle } w
      simp only [ending, queuedIn_cons, queuedIn_nil, Event.queued?, endedIn_cons, endedIn_nil,
        Event.ended?, Option.toList_none, Option.toList_some, List.append_nil, List.countP_nil,
        List.map_cons, List.map_nil, Access.message, List.countP_singleton, Nat.add_zero] at hcount
      rw [hagrees.migrationLane]
      -- The work that is served is the call the lane waits for, or no call of the lane at all.
      rcases hreply with ⟨hcalls, rfl⟩ | ⟨hcalls, p, rfl⟩
      · simpa [hcalls] using hcount.symm
      · have hone : e.migrationLane.calls = 1 := by
          rw [(he.waiting hlane hcalls).1]
          rfl
        rw [hone, if_pos hcalls] at hcount
        show _ = 0
        omega
  | takeTask hlane | stopMigration hlane | begin hlane | complete hlane =>
      simpa [hlane, MigrationLane.calls] using hcount.symm
  | @migrate t hlane =>
      obtain ⟨lane, hagrees, hdone⟩ := migrate_agrees e t
      have hnone : lane.calls = 0 := by
        rcases hdone with rfl | ⟨p, rfl⟩ <;> rfl
      rw [hagrees.migrationLane, hnone]
      simpa [ending, Access.message, hlane, MigrationLane.calls, AccessMessage.callsLane]
        using hcount.symm
  | callback hlane hcall =>
      rw [hcall.calls, hcall.accesses.2, hlane] at hcount
      simpa [MigrationLane.calls] using hcount.symm
  | @client i p events e' after hclient hcall =>
      have hlane : e'.migrationLane.calls = e.migrationLane.calls := by
        rw [hcall.lanes.2.1]
      rw [hcall.calls, hcall.accesses.2] at hcount
      show _ = e'.migrationLane.calls
      rw [hlane]
      simpa using hcount.symm

/-- Every turn keeps an engine ordered. -/
theorem Turn.ordered (he : e.Ordered) (h : e.Turn events e') : e'.Ordered := by
  have htickets : e'.tickets.Valid := by
    rcases h.tickets he with hsame | hstep
    · rw [hsame]
      exact he.tickets
    · exact he.tickets.step hstep
  exact ⟨htickets, h.reached he, h.migrating he, h.calls he⟩

/-- Every engine that is reached from an ordered one is ordered. -/
theorem Run.ordered (he : e.Ordered) (h : Run e events e') : e'.Ordered := by
  induction h with
  | refl => exact he
  | tail _ hturn ih => exact hturn.ordered ih

end

end SqlStore.Engine
