/-
# The barrier

A request for a migration enters the barrier with the next ticket, and leaves it when its migration
has been run.  The two counters of the barrier tell how many requests there have been and how many
of them are done, and both queues end the sequence of the tickets that have been given out.  So
whenever the access lane stands at a fence, the task of that fence is the very next one of the
migration lane, and neither lane waits for a ticket that is not the other one's.

* `finishedIn` : the migrations that have been run;
* `Engine.fenceQueue`, `Engine.taskQueue` : the tickets in the two queues;
* `Engine.Expects` : where the task of a ticket is while its fence is in hand;
* `Engine.Barrier`, `Engine.Run.barrier` : the counters, the queues and the lanes after any run;
* `Engine.Reaches.exists_barrier` : in any state that moves reach.
-/
import SqlStore.Proofs.Engine.Deadlock
import SqlStore.Proofs.Engine.Linearization

namespace SqlStore

variable {Note : Type}

/-- The migrations that have been run, in order. -/
def finishedIn (events : List (Event Note)) : List (MigrationTask Note) :=
  (endedIn events).filterMap Access.migration?

namespace Engine

/-- The tickets of the fences in the access queue, in order. -/
def fenceQueue (e : Engine Note) : List Nat := e.accessQueue.filterMap AccessMessage.ticket?

/-- The tasks in the migration queue, in order. -/
def taskQueue (e : Engine Note) : List (MigrationTask Note) :=
  e.migrationQueue.filterMap MigrationMessage.task?

/-- The task of a ticket is in the hand of the migration lane, it is the first one in the queue of
that lane, or the caller whose request is on its way puts it there with its next call. -/
inductive Expects (e : Engine Note) (ticket : Nat) : Prop
  | inHand {t : MigrationTask Note} (hticket : t.ticket = ticket)
      (hlane : e.migrationLane = .awaiting t ∨ e.migrationLane = .migrating t)
  | first {t : MigrationTask Note} {rest : List (MigrationTask Note)} (hticket : t.ticket = ticket)
      (hqueue : e.taskQueue = t :: rest)
  | onItsWay {who : Caller} {p : Client Note} {m : Migration Note} {c : Completion Note}
      {e' : Engine Note} {after : Progress Note}
      (hsubmission : e.submission = some ⟨who, ticket, true⟩)
      (hprogram : e.programOf who = some (.running p))
      (hcall : Call e who p [.requested ⟨ticket, m, c⟩] e' after) : Expects e ticket

/-- What the counters of the barrier, the queues and the lanes are after a run. -/
structure Barrier (events : List (Event Note)) (e : Engine Note) : Prop where
  /-- Fences and tasks stand in their queues in the order of their tickets. -/
  increasing : e.fenceQueue.Pairwise (· < ·) ∧ (e.taskQueue.map (·.ticket)).Pairwise (· < ·)
  /-- The fences end the sequence of the tickets that were given out, but for one not yet posted. -/
  fences : ∃ n, e.fenceQueue <:+ List.range' 1 n ∧
    n + (if e.submission.any (!·.fenced) then 1 else 0) = e.entered
  /-- So do the tasks, which are posted after their fences. -/
  tasks : ∃ n, e.taskQueue.map (·.ticket) <:+ List.range' 1 n ∧
    n + (if e.submission.isSome then 1 else 0) = e.entered
  /-- The requests that have been made, with the one on its way, carry the tickets from one on. -/
  entered : (requestedIn events).map (·.ticket) ++ e.submission.toList.map (·.ticket)
    = List.range' 1 e.entered
  /-- The tickets leave the barrier in the same order, each with its migration. -/
  left : (finishedIn events).map (·.ticket) = List.range' 1 e.left ∧ e.left ≤ e.entered
  /-- The counters differ by the requests whose migrations have not been run. -/
  unfinished : requestedIn events = finishedIn events ++ e.tasks ∧
    e.entered - e.left = e.tasks.length + (if e.submission.isSome then 1 else 0)
  /-- A migration is said to be going on just while there is such a request. -/
  isMigrating : e.isMigrating = true ↔ e.tasks ≠ [] ∨ e.submission.isSome = true
  /-- Where the access lane waits at a fence, all earlier tickets have left, the migration lane has
  been told and has the task of the fence next, and it waits for no other one. -/
  waits : ∀ ticket, e.accessLane = .fenced ticket → e.left < ticket →
    (∀ earlier, 0 < earlier → earlier < ticket → ∃ t ∈ finishedIn events, t.ticket = earlier) ∧
      ticket ∈ e.reached ∧ e.Expects ticket ∧
      ∀ t, e.migrationLane = .awaiting t → t.ticket = ticket

section

variable {e first : Engine Note} {events : List (Event Note)}

/-! ## The queues -/

/-- The tickets before the access lane end with those in its queue. -/
theorem fenceQueue_suffix (e : Engine Note) : e.fenceQueue <:+ e.tickets.fences := by
  have hfilter : (e.accessQueue.filter AccessMessage.isAccess).filterMap AccessMessage.ticket?
      = e.fenceQueue := by
    rw [List.filterMap_filter, fenceQueue]
    congr 1
    funext m
    cases m <;> rfl
  refine ⟨(e.accessLane.inHand e.left).filterMap AccessMessage.ticket?, ?_⟩
  rw [← hfilter, ← List.filterMap_append]
  rfl

/-- So do those before the migration lane. -/
theorem taskQueue_suffix (e : Engine Note) :
    e.taskQueue.map (·.ticket) <:+ e.tickets.tasks := by
  refine ⟨e.migrationLane.inHand.map (·.ticket), ?_⟩
  rw [← List.map_append]
  rfl

/-- Tickets that are not done end the sequence of all tickets. -/
theorem suffix_range' {xs : List Nat} (hxs : xs = List.range' (e.left + 1) xs.length) :
    xs <:+ List.range' 1 (e.left + xs.length) := by
  refine ⟨List.range' 1 e.left, ?_⟩
  rw [hxs, List.length_range', ← List.range'_append_1, Nat.add_comm 1]

/-- The end of a sequence of tickets is increasing. -/
theorem pairwise_of_suffix {xs : List Nat} {n : Nat} (h : xs <:+ List.range' 1 n) :
    xs.Pairwise (· < ·) :=
  .sublist h.sublist List.pairwise_lt_range'

/-! ## The counters -/

/-- The requests that are not done are those before the migration lane and the one on its way. -/
theorem Ordered.entered_eq (he : e.Ordered) :
    e.left + e.tasks.length + (if e.submission.isSome then 1 else 0) = e.entered := by
  have hcount := he.tickets.taskCount
  have hlength : e.tickets.tasks.length = e.tasks.length := List.length_map _
  rw [hlength] at hcount
  exact hcount

/-- The tickets of the migrations that have been run, and those of the requests. -/
theorem Run.counters (hfirst : first.Ordered) (hleft : first.left = 0) (htasks : first.tasks = [])
    (h : Run first events e) :
    (finishedIn events).map (·.ticket) = List.range' 1 e.left ∧
      (requestedIn events).map (·.ticket) ++ e.submission.toList.map (·.ticket)
        = List.range' 1 e.entered := by
  have he := h.ordered hfirst
  obtain ⟨n, hdone, hn⟩ := h.left hfirst
  rw [hleft, Nat.zero_add] at hdone hn
  subst hn
  have hrequested := h.tasks hfirst
  rw [htasks, List.nil_append] at hrequested
  -- What has been run is followed by what is still to be run.
  have htickets : (requestedIn events).map (·.ticket)
      = List.range' 1 (e.left + e.tasks.length) := by
    have htodo : e.tasks.map (·.ticket) = List.range' (e.left + 1) e.tasks.length := by
      have hconsecutive := he.tickets.tasks
      have hlength : e.tickets.tasks.length = e.tasks.length := List.length_map _
      rw [hlength] at hconsecutive
      exact hconsecutive
    rw [hrequested, List.map_append, hdone, htodo, ← List.range'_append_1, Nat.add_comm 1]
  refine ⟨hdone, ?_⟩
  have hcount := he.entered_eq
  rw [htickets]
  cases hsubmission : e.submission with
  | none =>
      rw [hsubmission] at hcount
      rw [← hcount]
      exact List.append_nil _
  | some s =>
      have hlast : s.ticket = e.entered := he.tickets.ticket s hsubmission
      rw [hsubmission] at hcount
      simp only [Option.isSome_some, if_true] at hcount
      rw [← hcount, List.range'_concat, Option.toList_some, List.map_singleton, hlast, ← hcount]
      congr 2
      omega

/-- A migration is said to be going on just while a request is not done. -/
theorem Ordered.isMigrating_iff (he : e.Ordered) :
    e.isMigrating = true ↔ e.tasks ≠ [] ∨ e.submission.isSome = true := by
  have hcount := he.entered_eq
  have hlength : 0 < e.tasks.length ↔ e.tasks ≠ [] := List.length_pos_iff
  rw [isMigrating, decide_eq_true_iff, ← hlength]
  cases hsubmission : e.submission with
  | none =>
      rw [hsubmission] at hcount
      simp only [Option.isSome_none, Bool.false_eq_true, if_false, or_false] at hcount ⊢
      omega
  | some s =>
      rw [hsubmission] at hcount
      simp only [Option.isSome_some, if_true, or_true, iff_true] at hcount ⊢
      omega

/-! ## The lanes -/

/-- The first task before the migration lane is in its hand or the first one in its queue. -/
theorem expects_of_tasks {t : MigrationTask Note} {rest : List (MigrationTask Note)}
    (htasks : e.tasks = t :: rest) : e.Expects t.ticket := by
  rw [tasks] at htasks
  cases hlane : e.migrationLane with
  | awaiting u =>
      rw [hlane] at htasks
      cases htasks
      exact .inHand rfl (.inl hlane)
  | migrating u =>
      rw [hlane] at htasks
      cases htasks
      exact .inHand rfl (.inr hlane)
  | idle | completing | stopped =>
      rw [hlane] at htasks
      exact .first rfl htasks

/-- While a fence is in hand its task is the next one of the migration lane. -/
theorem Ordered.expects (he : e.Ordered) (ha : e.Answered) {ticket : Nat}
    (hlane : e.accessLane = .fenced ticket) (hleft : e.left < ticket) :
    ticket = e.left + 1 ∧ e.Expects ticket := by
  have hnot : ¬ ticket ≤ e.left := by omega
  have hpending : e.pending = .fence ticket :: e.accessQueue.filter AccessMessage.isAccess := by
    rw [Engine.pending, hlane, AccessLane.inHand, if_neg hnot]
    rfl
  have hnext := he.next_fence hpending
  refine ⟨hnext, ?_⟩
  cases htasks : e.tasks with
  | cons t rest =>
      have hticket := he.next_task htasks
      rw [hnext, ← hticket]
      exact expects_of_tasks htasks
  | nil =>
      -- The fence has been posted and no task has, so this is the request on its way.
      have hfences := he.tickets.fenceCount
      have hcount := he.entered_eq
      have hone : 0 < e.tickets.fences.length := by
        have hcons : e.tickets.fences = ticket ::
            (e.accessQueue.filter AccessMessage.isAccess).filterMap AccessMessage.ticket? := by
          rw [Engine.tickets, hpending]
          rfl
        rw [hcons]
        exact Nat.succ_pos _
      have hsame : e.tickets.submission = e.submission ∧ e.tickets.left = e.left ∧
        e.tickets.entered = e.entered := ⟨rfl, rfl, rfl⟩
      rw [hsame.1, hsame.2.1, hsame.2.2] at hfences
      rw [htasks, List.length_nil] at hcount
      cases hsubmission : e.submission with
      | none =>
          rw [hsubmission] at hcount
          simp only [Option.isSome_none, Bool.false_eq_true, if_false] at hcount
          omega
      | some s =>
          obtain ⟨who, given, fenced⟩ := s
          have hgiven : given = e.entered := he.tickets.ticket _ hsubmission
          rw [hsubmission] at hcount hfences
          simp only [Option.isSome_some, if_true, Option.any_some] at hcount hfences
          cases fenced with
          | false =>
              simp only [Bool.not_false, if_true] at hfences
              omega
          | true =>
              have hticket : given = ticket := by omega
              subst hticket
              obtain ⟨p, m, c, after, hprogram, hrequest⟩ := ha.holder _ hsubmission
              exact .onItsWay hsubmission hprogram (.task hrequest hsubmission)

end

/-- After a run that starts where nothing has been asked for, the counters, the queues and the lanes
agree on the tickets. -/
theorem Run.barrier_of_ordered {first e : Engine Note} {events : List (Event Note)}
    (hfirst : first.Ordered) (hanswered : first.Answered) (hleft : first.left = 0)
    (htasks : first.tasks = []) (h : Run first events e) :
    Barrier events e := by
  have he := h.ordered hfirst
  have ha := h.answered hfirst hanswered
  obtain ⟨hdone, hentered⟩ := h.counters hfirst hleft htasks
  have hrequested := h.tasks hfirst
  rw [htasks, List.nil_append] at hrequested
  have hcount := he.entered_eq
  have hfences := e.fenceQueue_suffix.trans (suffix_range' he.tickets.fences)
  have htasks := e.taskQueue_suffix.trans (suffix_range' he.tickets.tasks)
  refine ⟨⟨pairwise_of_suffix hfences, pairwise_of_suffix htasks⟩,
    ⟨_, hfences, he.tickets.fenceCount⟩,
    ⟨_, htasks, he.tickets.taskCount⟩, hentered, ⟨hdone, by omega⟩, ⟨hrequested, by omega⟩,
    he.isMigrating_iff, ?_⟩
  intro ticket hlane hleft
  obtain ⟨hnext, hexpects⟩ := he.expects ha hlane hleft
  refine ⟨?_, ha.fence ticket hlane, hexpects, ?_⟩
  · intro earlier hpos hearlier
    have hmem : earlier ∈ (finishedIn events).map (·.ticket) := by
      rw [hdone, List.mem_range'_1]
      omega
    exact List.mem_map.mp hmem
  · intro t hawaiting
    have htask : e.tasks = t :: e.taskQueue := by
      rw [Engine.tasks, hawaiting]
      rfl
    rw [hnext, he.next_task htask]

/-- After any run, whatever the clients do and whatever comes of it, the counters, the queues and
the lanes agree on the tickets. -/
theorem Run.barrier {accessName migrationName : String} {ws : Workspace Note}
    {clients : List (Client Note)} {events : List (Event Note)} {e : Engine Note}
    (h : Run { start accessName migrationName ws with clients := clients.map .running } events e) :
    Barrier events e :=
  h.barrier_of_ordered (ordered_start accessName migrationName ws (clients.map Progress.running))
    (answered_start accessName migrationName ws clients) rfl rfl

/-- So they do in every state that moves reach. -/
theorem Reaches.exists_barrier {accessName migrationName : String} {ws : Workspace Note}
    {clients : List (Client Note)} {e : Engine Note}
    (h : Reaches { start accessName migrationName ws with clients := clients.map .running } e) :
    ∃ events,
      Run { start accessName migrationName ws with clients := clients.map .running } events e ∧
      Barrier events e := by
  obtain ⟨events, hrun⟩ := reaches_iff_run.mp h
  have hfirst := ordered_start accessName migrationName ws (clients.map Progress.running)
  have hanswered := answered_start accessName migrationName ws clients
  exact ⟨events, hrun, hrun.barrier_of_ordered hfirst hanswered rfl rfl⟩

/-! ## Two migrations, the second one on its way -/

/-- Two clients request migrations. -/
def queueing : Engine Unit :=
  { start "access" "migration" ⟨.inMemory, [], false⟩ with
    clients := [Client.migrate standing (fun _ => .done) .done,
      .migrate standing (fun _ => .done) .done].map .running }

/-- The second client can post its fence and then wait with its task. -/
theorem queueing_requested : ∃ events, Run queueing events { queueing with
    accessQueue := [.fence 1, .fence 2]
    migrationQueue := [.task ⟨1, standing, .callback fun _ => .done⟩]
    entered := 2, submission := some ⟨.client 1, 2, true⟩
    clients := [.running .done, .running (.migrate standing (fun _ => .done) .done)] } := by
  have h₀ : Run queueing [] queueing := .refl
  have h₁ := h₀.tail (.client 0 rfl (.enter (.migrate _ _ _) rfl))
  have h₂ := h₁.tail (.client 0 rfl (.fence (.migrate _ _ _) rfl))
  have h₃ := h₂.tail (.client 0 rfl (.task (.migrate _ _ _) rfl))
  have h₄ := h₃.tail (.client 1 rfl (.enter (.migrate _ _ _) rfl))
  have h₅ := h₄.tail (.client 1 rfl (.fence (.migrate _ _ _) rfl))
  exact ⟨_, h₅⟩

/-- Meanwhile the migration of the first one is run. -/
theorem queueing_migrated : ∃ events, Run queueing events { queueing with
    accessQueue := [.fence 2]
    accessLane := .fenced 1
    migrationLane := .completing (.running .done)
    reached := [1], entered := 2, left := 1, submission := some ⟨.client 1, 2, true⟩
    clients := [.running .done, .running (.migrate standing (fun _ => .done) .done)] } := by
  obtain ⟨_, h₀⟩ := queueing_requested
  have h₁ := h₀.tail (.reachFence rfl rfl)
  have h₂ := h₁.tail (.takeTask rfl rfl)
  have h₃ := h₂.tail (.begin rfl (.head _))
  have h₄ := h₃.tail (.migrate rfl)
  exact ⟨_, h₄⟩

/-- Then the access lane waits at the second fence, whose task has not been posted yet. -/
theorem barrier_second_fence : ∃ events e, Run queueing events e ∧ e.accessLane = .fenced 2 ∧
    e.left = 1 ∧ e.taskQueue = [] ∧ Barrier events e ∧ e.isMigrating = true ∧ e.Expects 2 := by
  obtain ⟨_, h₀⟩ := queueing_migrated
  have h₁ := h₀.tail (.leaveFence rfl (Nat.le_refl 1))
  have h := h₁.tail (.reachFence rfl rfl)
  have hbarrier := Run.barrier h
  refine ⟨_, _, h, rfl, rfl, rfl, hbarrier, ?_, ?_⟩
  · exact hbarrier.isMigrating.mpr (.inr rfl)
  · exact (hbarrier.waits 2 rfl (Nat.lt_succ_self 1)).2.2.1

end Engine

end SqlStore
