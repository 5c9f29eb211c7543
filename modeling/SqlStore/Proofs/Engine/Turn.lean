/-
# What a move of an engine can do

Every fact about an engine is proved from one list: the turns, which are the moves of all threads
with their guards and with what is seen of them.  A turn is seen as events: a message that enters a
queue, an access to the database that begins or ends, a note.  The turns are the moves, no more and
no fewer, so a run of turns is a path of the transition system with its events written down.

* `Access`, `Event` : the accesses to the database, and what is seen of a move;
* `Engine.Call`, `Engine.Turn` : the moves of a program and of all threads, with their events;
* `Engine.step_iff_turn` : the turns are the moves;
* `Engine.Run`, `Engine.reaches_iff_run` : paths with their events.
-/
import SqlStore.Engine.Basic

namespace SqlStore

variable {Note : Type}

/-! ## Accesses and events -/

/-- What a caller is told, with its type. -/
abbrev Reply := (α : Type) × Except StoreError α

/-- What the caller of a job is told, and the workspace after the job and its completion. -/
def Work.outcome (w : Work Note) (surroundings : Surroundings) (ws : Workspace Note) :
    Reply × Workspace Note :=
  match w with
  | .call job _ _ =>
      let (result, after) := job.outcome surroundings ws
      (⟨_, result⟩, after)
  | .async job completion =>
      let (result, after) := job.outcome surroundings ws
      (⟨_, result⟩, ((completion result).outcome surroundings after).2)

/-- What is done to the database for one message to the access lane. -/
inductive Access (Note : Type) : Type 1
  | work (w : Work Note)
  | migration (t : MigrationTask Note)

namespace Access

/-- The message whose place the access takes. -/
def message : Access Note → AccessMessage Note
  | work w => .work w
  | migration t => .fence t.ticket

/-- What the caller is told, and the workspace afterwards. -/
def outcome (a : Access Note) (surroundings : Surroundings) (ws : Workspace Note) :
    Reply × Workspace Note :=
  match a with
  | work w => w.outcome surroundings ws
  | migration t =>
      let (result, after) := t.migration.runGuarded.outcome surroundings ws
      (⟨_, result⟩, after)

end Access

/-- What is seen of a move. -/
inductive Event (Note : Type) : Type 1
  /-- A message entered the queue of the access lane. -/
  | queued (m : AccessMessage Note)
  /-- A migration entered the queue of the migration lane. -/
  | requested (t : MigrationTask Note)
  | began (a : Access Note)
  /-- An access ended, with what its caller is told. -/
  | ended (a : Access Note) (surroundings : Surroundings) (reply : Reply)
  | noted (n : Note)

namespace Event

@[simp] def queued? : Event Note → Option (AccessMessage Note)
  | queued m => some m
  | _ => none

@[simp] def requested? : Event Note → Option (MigrationTask Note)
  | requested t => some t
  | _ => none

@[simp] def begun? : Event Note → Option (Access Note)
  | began a => some a
  | _ => none

@[simp] def ended? : Event Note → Option (Access Note)
  | ended a _ _ => some a
  | _ => none

end Event

section

variable (events more : List (Event Note))

/-- The messages that entered the queue of the access lane, in order. -/
def queuedIn : List (AccessMessage Note) := events.filterMap Event.queued?

/-- The migrations that entered the queue of the migration lane, in order. -/
def requestedIn : List (MigrationTask Note) := events.filterMap Event.requested?

/-- The accesses that began, in order. -/
def begunIn : List (Access Note) := events.filterMap Event.begun?

/-- The accesses that ended, in order. -/
def endedIn : List (Access Note) := events.filterMap Event.ended?

@[simp] theorem queuedIn_nil : queuedIn ([] : List (Event Note)) = [] := rfl

@[simp] theorem requestedIn_nil : requestedIn ([] : List (Event Note)) = [] := rfl

@[simp] theorem begunIn_nil : begunIn ([] : List (Event Note)) = [] := rfl

@[simp] theorem endedIn_nil : endedIn ([] : List (Event Note)) = [] := rfl

@[simp] theorem queuedIn_cons (event : Event Note) :
    queuedIn (event :: events) = event.queued?.toList ++ queuedIn events := by
  rw [queuedIn, List.filterMap_cons]
  cases event.queued? <;> rfl

@[simp] theorem requestedIn_cons (event : Event Note) :
    requestedIn (event :: events) = event.requested?.toList ++ requestedIn events := by
  rw [requestedIn, List.filterMap_cons]
  cases event.requested? <;> rfl

@[simp] theorem begunIn_cons (event : Event Note) :
    begunIn (event :: events) = event.begun?.toList ++ begunIn events := by
  rw [begunIn, List.filterMap_cons]
  cases event.begun? <;> rfl

@[simp] theorem endedIn_cons (event : Event Note) :
    endedIn (event :: events) = event.ended?.toList ++ endedIn events := by
  rw [endedIn, List.filterMap_cons]
  cases event.ended? <;> rfl

@[simp] theorem queuedIn_append : queuedIn (events ++ more) = queuedIn events ++ queuedIn more :=
  List.filterMap_append

@[simp] theorem requestedIn_append :
    requestedIn (events ++ more) = requestedIn events ++ requestedIn more :=
  List.filterMap_append

@[simp] theorem begunIn_append : begunIn (events ++ more) = begunIn events ++ begunIn more :=
  List.filterMap_append

@[simp] theorem endedIn_append : endedIn (events ++ more) = endedIn events ++ endedIn more :=
  List.filterMap_append

end

namespace Engine

/-! ## Calls -/

/-- A request for a migration as the first call of a program: the migration, its completion, and
where the program stands once the request is complete. -/
inductive Requests (who : Caller) :
    Client Note → Migration Note → Completion Note → Progress Note → Prop
  | migrate (m : Migration Note) (completion : Except StoreError Int32 → Client Note)
      (next : Client Note) :
      Requests who (.migrate m completion next) m (.callback completion) (.running next)
  | migrateBlocking {i : Nat} (hwho : who = .client i) (m : Migration Note)
      (next : Except StoreError Int32 → Client Note) :
      Requests who (.migrateBlocking m next) m (.reply who next) .waiting

/-- The first call of a program, with its events, the engine after it and where the program
stands. -/
inductive Call (e : Engine Note) (who : Caller) :
    Client Note → List (Event Note) → Engine Note → Progress Note → Prop
  | panic (message : Option String) : Call e who (.panic message) [] e (.running .done)
  | note (n : Note) (next : Client Note) :
      Call e who (.note n next) [.noted n]
        { e with workspace := { e.workspace with notes := n :: e.workspace.notes } } (.running next)
  | run {α : Type} (job : Job Note α) (next : Except StoreError α → Client Note) :
      Call e who (.run job next) [.queued (.work (.call job who next))]
        (e.post (.work (.call job who next))) .waiting
  | runAsync {α : Type} (job : Job Note α) (completion : Except StoreError α → Job Note Unit)
      (next : Client Note) :
      Call e who (.runAsync job completion next) [.queued (.work (.async job completion))]
        (e.post (.work (.async job completion))) (.running next)
  | enter {p : Client Note} {m : Migration Note} {c : Completion Note} {after : Progress Note}
      (hp : Requests who p m c after) (hfree : e.submission = none) :
      Call e who p [] { e with entered := e.entered + 1
                               submission := some ⟨who, e.entered + 1, false⟩ } (.running p)
  | fence {p : Client Note} {m : Migration Note} {c : Completion Note} {after : Progress Note}
      (hp : Requests who p m c after) {ticket : Nat}
      (hheld : e.submission = some ⟨who, ticket, false⟩) :
      Call e who p [.queued (.fence ticket)]
        { e.post (.fence ticket) with submission := some ⟨who, ticket, true⟩ } (.running p)
  | task {p : Client Note} {m : Migration Note} {c : Completion Note} {after : Progress Note}
      (hp : Requests who p m c after) {ticket : Nat}
      (hheld : e.submission = some ⟨who, ticket, true⟩) :
      Call e who p [.requested ⟨ticket, m, c⟩]
        { e.postMigration (.task ⟨ticket, m, c⟩) with submission := none } after
  | selfWait (hwho : who = .migrationLane) (m : Migration Note)
      (next : Except StoreError Int32 → Client Note) :
      Call e who (.migrateBlocking m next) [] e (.running (next (.error selfWait)))
  | isMigrating (next : Bool → Client Note) :
      Call e who (.isMigrating next) [] e (.running (next e.isMigrating))
  | releaseLane (hwho : who = .migrationLane) : Call e who .release [] e.shutDown (.running .done)
  | release {i : Nat} (hwho : who = .client i) : Call e who .release [] e.shutDown .joining

/-- A request that can go on does one of its three parts. -/
theorem submit_eq_some {e e' : Engine Note} {who : Caller} {m : Migration Note}
    {c : Completion Note} {complete : Bool} (h : e.submit who m c = some (e', complete)) :
    (e.submission = none ∧ complete = false ∧
      e' = { e with entered := e.entered + 1, submission := some ⟨who, e.entered + 1, false⟩ }) ∨
    (∃ ticket, e.submission = some ⟨who, ticket, false⟩ ∧ complete = false ∧
      e' = { e.post (.fence ticket) with submission := some ⟨who, ticket, true⟩ }) ∨
    (∃ ticket, e.submission = some ⟨who, ticket, true⟩ ∧ complete = true ∧
      e' = { e.postMigration (.task ⟨ticket, m, c⟩) with submission := none }) := by
  rw [submit] at h
  cases hs : e.submission with
  | none =>
      rw [hs] at h
      cases h
      exact .inl ⟨rfl, rfl, rfl⟩
  | some s =>
      obtain ⟨holder, ticket, fenced⟩ := s
      rw [hs] at h
      by_cases hholder : holder = who
      · subst hholder
        simp only [ne_eq, not_true_eq_false, if_false] at h
        cases fenced with
        | false =>
            cases h
            exact .inr (.inl ⟨ticket, rfl, rfl, rfl⟩)
        | true =>
            cases h
            exact .inr (.inr ⟨ticket, rfl, rfl, rfl⟩)
      · simp [hholder] at h

/-- A request is carried on by one of the calls. -/
theorem Requests.call {e e' : Engine Note} {who : Caller} {p : Client Note} {m : Migration Note}
    {c : Completion Note} {after : Progress Note} (hp : Requests who p m c after)
    {complete : Bool} (h : e.submit who m c = some (e', complete)) :
    ∃ events, Call e who p events e' (if complete then after else .running p) := by
  rcases submit_eq_some h with ⟨hfree, rfl, rfl⟩ | ⟨ticket, hheld, rfl, rfl⟩ |
    ⟨ticket, hheld, rfl, rfl⟩
  · exact ⟨_, .enter hp hfree⟩
  · exact ⟨_, .fence hp hheld⟩
  · exact ⟨_, .task hp hheld⟩

/-- What a program does next is its first call. -/
theorem advance_call {e e' : Engine Note} {who : Caller} {p : Client Note} {after : Progress Note}
    (h : e.advance who p = some (e', after)) : ∃ events, Call e who p events e' after := by
  cases p with
  | done => cases h
  | panic message =>
      cases h
      exact ⟨_, .panic message⟩
  | note n next =>
      cases h
      exact ⟨_, .note n next⟩
  | run job next =>
      cases h
      exact ⟨_, .run job next⟩
  | runAsync job completion next =>
      cases h
      exact ⟨_, .runAsync job completion next⟩
  | migrate m completion next =>
      obtain ⟨⟨e', complete⟩, hsubmit, heq⟩ := Option.map_eq_some_iff.mp h
      cases heq
      have hrequest : Requests who _ m _ _ := .migrate m completion next
      have hcall := hrequest.call hsubmit
      cases complete <;> exact hcall
  | migrateBlocking m next =>
      cases who with
      | migrationLane =>
          cases h
          exact ⟨_, .selfWait rfl m next⟩
      | client i =>
          obtain ⟨⟨e', complete⟩, hsubmit, heq⟩ := Option.map_eq_some_iff.mp h
          cases heq
          exact (Requests.migrateBlocking rfl m next).call hsubmit
  | isMigrating next =>
      cases h
      exact ⟨_, .isMigrating next⟩
  | release =>
      cases who with
      | migrationLane =>
          cases h
          exact ⟨_, .releaseLane rfl⟩
      | client i =>
          cases h
          exact ⟨_, .release rfl⟩

/-- The first call of a program is what it does next. -/
theorem Call.advance {e e' : Engine Note} {who : Caller} {p : Client Note}
    {events : List (Event Note)} {after : Progress Note} (h : Call e who p events e' after) :
    e.advance who p = some (e', after) := by
  cases h with
  | panic | note | run | runAsync | isMigrating => rfl
  | enter hp hfree => cases hp <;> subst_vars <;> simp [Engine.advance, submit, hfree]
  | fence hp hheld => cases hp <;> subst_vars <;> simp [Engine.advance, submit, hheld]
  | task hp hheld => cases hp <;> subst_vars <;> simp [Engine.advance, submit, hheld]
  | selfWait hwho => subst hwho; rfl
  | releaseLane hwho => subst hwho; rfl
  | release hwho => subst hwho; rfl

/-! ## Turns -/

/-- Where an access runs. -/
def surroundings (e : Engine Note) : Access Note → Surroundings
  | .work _ => ⟨e.accessName, e.isMigrating⟩
  | .migration _ => ⟨e.migrationName, e.isMigrating⟩

/-- The access as it ends now. -/
def ending (e : Engine Note) (a : Access Note) : Event Note :=
  .ended a (e.surroundings a) (a.outcome (e.surroundings a) e.workspace).1

/-- The caller of a job goes on with the reply, in the workspace that the job leaves. -/
theorem serve_call (e : Engine Note) {α : Type} (job : Job Note α) (caller : Caller)
    (resume : Except StoreError α → Client Note) :
    ∃ (result : Except StoreError α) (after : Workspace Note),
      (Access.work (.call job caller resume)).outcome
        (e.surroundings (.work (.call job caller resume))) e.workspace = (⟨α, result⟩, after) ∧
      e.serve (.call job caller resume) = (e.withWorkspace after).resume (resume result) caller :=
  ⟨_, _, rfl, rfl⟩

/-- Who waits for a migration goes on with the reply. -/
theorem migrate_reply (e : Engine Note) (ticket : Nat) (m : Migration Note) (caller : Caller)
    (resume : Except StoreError Int32 → Client Note) :
    ∃ (result : Except StoreError Int32) (after : Workspace Note),
      (Access.migration ⟨ticket, m, .reply caller resume⟩).outcome
        (e.surroundings (.migration ⟨ticket, m, .reply caller resume⟩)) e.workspace
        = (⟨Int32, result⟩, after) ∧
      e.migrate ⟨ticket, m, .reply caller resume⟩
        = ({ e.withWorkspace after with left := max e.left ticket, migrationLane := .idle }).resume
            (resume result) caller :=
  ⟨_, _, rfl, rfl⟩

/-- A completion runs with the reply. -/
theorem migrate_callback (e : Engine Note) (ticket : Nat) (m : Migration Note)
    (program : Except StoreError Int32 → Client Note) :
    ∃ (result : Except StoreError Int32) (after : Workspace Note),
      (Access.migration ⟨ticket, m, .callback program⟩).outcome
        (e.surroundings (.migration ⟨ticket, m, .callback program⟩)) e.workspace
        = (⟨Int32, result⟩, after) ∧
      e.migrate ⟨ticket, m, .callback program⟩
        = { e.withWorkspace after with
            left := max e.left ticket
            migrationLane := .completing (.running (program result)) } :=
  ⟨_, _, rfl, rfl⟩

/-- A move of some thread, with its events and the engine after it. -/
inductive Turn (e : Engine Note) : List (Event Note) → Engine Note → Prop
  | takeWork {w : Work Note} {rest : List (AccessMessage Note)} (hlane : e.accessLane = .idle)
      (hqueue : e.accessQueue = .work w :: rest) :
      Turn e [.began (.work w)] { e with accessQueue := rest, accessLane := .serving w }
  | reachFence {ticket : Nat} {rest : List (AccessMessage Note)} (hlane : e.accessLane = .idle)
      (hqueue : e.accessQueue = .fence ticket :: rest) :
      Turn e [] { e with accessQueue := rest, accessLane := .fenced ticket
                         reached := ticket :: e.reached }
  | stopAccess {rest : List (AccessMessage Note)} (hlane : e.accessLane = .idle)
      (hqueue : e.accessQueue = .shutdown :: rest) :
      Turn e [] { e with accessQueue := rest, accessLane := .stopped }
  | serve {w : Work Note} (hlane : e.accessLane = .serving w) :
      Turn e [e.ending (.work w)] ({ e with accessLane := .idle }.serve w)
  | leaveFence {ticket : Nat} (hlane : e.accessLane = .fenced ticket) (hleft : ticket ≤ e.left) :
      Turn e [] { e with accessLane := .idle }
  | takeTask {t : MigrationTask Note} {rest : List (MigrationMessage Note)}
      (hlane : e.migrationLane = .idle) (hqueue : e.migrationQueue = .task t :: rest) :
      Turn e [] { e with migrationQueue := rest, migrationLane := .awaiting t }
  | stopMigration {rest : List (MigrationMessage Note)} (hlane : e.migrationLane = .idle)
      (hqueue : e.migrationQueue = .shutdown :: rest) :
      Turn e [] { e with migrationQueue := rest, migrationLane := .stopped }
  | begin {t : MigrationTask Note} (hlane : e.migrationLane = .awaiting t)
      (hreached : t.ticket ∈ e.reached) :
      Turn e [.began (.migration t)] { e with migrationLane := .migrating t }
  | migrate {t : MigrationTask Note} (hlane : e.migrationLane = .migrating t) :
      Turn e [e.ending (.migration t)] (e.migrate t)
  | complete (hlane : e.migrationLane = .completing (.running .done)) :
      Turn e [] { e with migrationLane := .idle }
  | callback {p : Client Note} {events : List (Event Note)} {e' : Engine Note}
      {after : Progress Note} (hlane : e.migrationLane = .completing (.running p))
      (hcall : Call e .migrationLane p events e' after) :
      Turn e events { e' with migrationLane := .completing after }
  | client (i : Nat) {p : Client Note} {events : List (Event Note)} {e' : Engine Note}
      {after : Progress Note} (hclient : e.clients[i]? = some (.running p))
      (hcall : Call e (.client i) p events e' after) :
      Turn e events { e' with clients := e.clients.set i after }
  | join (i : Nat) (hclient : e.clients[i]? = some .joining) (hstopped : e.hasStopped = true) :
      Turn e [] { e with clients := e.clients.set i (.running .done) }

/-- A call leaves the clients as they are. -/
theorem Call.clients {e e' : Engine Note} {who : Caller} {p : Client Note}
    {events : List (Event Note)} {after : Progress Note} (h : Call e who p events e' after) :
    e'.clients = e.clients := by
  cases h <;> rfl

theorem moveAccess_turn {e e' : Engine Note} (h : e.moveAccess = some e') :
    ∃ events, e.Turn events e' := by
  rw [moveAccess] at h
  cases hlane : e.accessLane with
  | idle =>
      rw [hlane] at h
      cases hqueue : e.accessQueue with
      | nil =>
          rw [hqueue] at h
          cases h
      | cons m rest =>
          rw [hqueue] at h
          cases m with
          | work w =>
              cases h
              exact ⟨_, .takeWork hlane hqueue⟩
          | fence ticket =>
              cases h
              exact ⟨_, .reachFence hlane hqueue⟩
          | shutdown =>
              cases h
              exact ⟨_, .stopAccess hlane hqueue⟩
  | serving w =>
      rw [hlane] at h
      cases h
      exact ⟨_, .serve hlane⟩
  | fenced ticket =>
      rw [hlane] at h
      by_cases hleft : ticket ≤ e.left
      · simp only [hleft, if_true] at h
        cases h
        exact ⟨_, .leaveFence hlane hleft⟩
      · simp [hleft] at h
  | stopped =>
      rw [hlane] at h
      cases h

theorem moveMigration_turn {e e' : Engine Note} (h : e.moveMigration = some e') :
    ∃ events, e.Turn events e' := by
  rw [moveMigration.eq_def] at h
  split at h
  · rename_i hlane
    cases hqueue : e.migrationQueue with
    | nil =>
        rw [hqueue] at h
        cases h
    | cons m rest =>
        rw [hqueue] at h
        cases m with
        | task t =>
            cases h
            exact ⟨_, .takeTask hlane hqueue⟩
        | shutdown =>
            cases h
            exact ⟨_, .stopMigration hlane hqueue⟩
  · rename_i t hlane
    by_cases hreached : t.ticket ∈ e.reached
    · simp only [List.contains_iff_mem, hreached, if_true] at h
      cases h
      exact ⟨_, .begin hlane hreached⟩
    · simp [hreached] at h
  · rename_i t hlane
    cases h
    exact ⟨_, .migrate hlane⟩
  · rename_i hlane
    cases h
    exact ⟨_, .complete hlane⟩
  · rename_i p hdone hlane
    obtain ⟨⟨e', after⟩, hadvance, heq⟩ := Option.map_eq_some_iff.mp h
    cases heq
    obtain ⟨events, hcall⟩ := advance_call hadvance
    exact ⟨events, .callback hlane hcall⟩
  · cases h
  · cases h

theorem moveClient_turn {e e' : Engine Note} {i : Nat} (h : e.moveClient i = some e') :
    ∃ events, e.Turn events e' := by
  rw [moveClient.eq_def] at h
  split at h
  · rename_i p hclient
    obtain ⟨⟨e', after⟩, hadvance, heq⟩ := Option.map_eq_some_iff.mp h
    cases heq
    obtain ⟨events, hcall⟩ := advance_call hadvance
    have hclients : e'.clients = e.clients := hcall.clients
    refine ⟨events, ?_⟩
    simp only [hclients]
    exact .client i hclient hcall
  · rename_i hclient
    by_cases hstopped : e.hasStopped = true
    · simp only [hstopped, if_true] at h
      cases h
      exact ⟨_, .join i hclient hstopped⟩
    · simp [hstopped] at h
  · cases h

/-- The turns are the moves. -/
theorem step_iff_turn {e e' : Engine Note} : e.Step e' ↔ ∃ events, e.Turn events e' := by
  constructor
  · rintro ⟨thread, h⟩
    cases thread with
    | access => exact moveAccess_turn h
    | migration => exact moveMigration_turn h
    | client i => exact moveClient_turn h
  · rintro ⟨events, h⟩
    cases h with
    | takeWork hlane hqueue => exact ⟨.access, by simp [move, moveAccess, hlane, hqueue]⟩
    | reachFence hlane hqueue => exact ⟨.access, by simp [move, moveAccess, hlane, hqueue]⟩
    | stopAccess hlane hqueue => exact ⟨.access, by simp [move, moveAccess, hlane, hqueue]⟩
    | serve hlane => exact ⟨.access, by simp [move, moveAccess, hlane]⟩
    | leaveFence hlane hleft => exact ⟨.access, by simp [move, moveAccess, hlane, hleft]⟩
    | takeTask hlane hqueue => exact ⟨.migration, by simp [move, moveMigration, hlane, hqueue]⟩
    | stopMigration hlane hqueue =>
        exact ⟨.migration, by simp [move, moveMigration, hlane, hqueue]⟩
    | begin hlane hreached => exact ⟨.migration, by simp [move, moveMigration, hlane, hreached]⟩
    | migrate hlane => exact ⟨.migration, by simp [move, moveMigration, hlane]⟩
    | complete hlane => exact ⟨.migration, by simp [move, moveMigration, hlane]⟩
    | @callback p events e' after hlane hcall =>
        refine ⟨.migration, ?_⟩
        have hadvance := hcall.advance
        have hdone : p ≠ .done := by
          rintro rfl
          cases hadvance
        rw [move, moveMigration, hlane]
        cases p <;> simp_all
    | client i hclient hcall =>
        exact ⟨.client i, by simp [move, moveClient, hclient, hcall.advance, hcall.clients]⟩
    | join i hclient hstopped =>
        exact ⟨.client i, by simp [move, moveClient, hclient, hstopped]⟩

/-! ## Runs -/

/-- A path of the transition system, with the events of its moves in order. -/
inductive Run (first : Engine Note) : List (Event Note) → Engine Note → Prop
  | refl : Run first [] first
  | tail {events more : List (Event Note)} {before after : Engine Note} :
      Run first events before → before.Turn more after → Run first (events ++ more) after

/-- What can be reached is reached by a run. -/
theorem reaches_iff_run {first e : Engine Note} :
    Reaches first e ↔ ∃ events, Run first events e := by
  constructor
  · intro h
    induction h with
    | refl => exact ⟨[], .refl⟩
    | tail _ hstep ih =>
        obtain ⟨events, hrun⟩ := ih
        obtain ⟨more, hturn⟩ := step_iff_turn.mp hstep
        exact ⟨events ++ more, hrun.tail hturn⟩
  · rintro ⟨events, h⟩
    induction h with
    | refl => exact .refl first
    | tail _ hturn ih => exact ih.tail (step_iff_turn.mpr ⟨_, hturn⟩)

end Engine

end SqlStore
