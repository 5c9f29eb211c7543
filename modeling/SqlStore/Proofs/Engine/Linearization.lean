/-
# Linearization

Whatever the order of the moves, an engine does one thing after another to its database: the
accesses in the order in which their messages entered the access queue, every migration at the
place of its fence.  What is left in the database and what the callers are told is therefore what
one thread would have done that went through the queue alone.

* `replay` : a workspace after events, without queues and lanes;
* `Access.OnDatabase`, `sequential` : accesses that depend on the database alone, one after another;
* `Engine.Linear` : the order of a run, and its replay;
* `Engine.Run.linear` : every run of an engine is linear;
* `Engine.Reaches.exists_linear` : so are the moves that reach a state.
-/
import Mathlib.Data.List.Nodup
import SqlStore.Proofs.Engine.Order
import SqlStore.Proofs.Job.Exec

namespace SqlStore

variable {Note : Type}

/-! ## Replays -/

/-- What the caller of an access that ended is told. -/
@[simp] def Event.reply? : Event Note → Option Reply
  | ended _ _ reply => some reply
  | _ => none

/-- What the callers of accesses are told, in order. -/
def repliesIn (events : List (Event Note)) : List Reply := events.filterMap Event.reply?

/-- A workspace after what an event did to it. -/
def Event.apply (ws : Workspace Note) : Event Note → Workspace Note
  | ended a surroundings _ => { (a.outcome surroundings ws).2 with released := false }
  | noted n => { ws with notes := n :: ws.notes }
  | _ => ws

/-- A workspace after the events, one after another. -/
def replay (ws : Workspace Note) (events : List (Event Note)) : Workspace Note :=
  events.foldl Event.apply ws

namespace Access

/-- What an access tells and what it does to the database depend on the thread and the database
alone: neither on notes nor on whether a migration has been requested. -/
def OnDatabase (a : Access Note) : Prop :=
  ∀ (s s' : Surroundings) (ws ws' : Workspace Note), s.lane = s'.lane →
    ws.database = ws'.database → (a.outcome s ws).1 = (a.outcome s' ws').1 ∧
      (a.outcome s ws).2.database = (a.outcome s' ws').2.database

/-- An access to a database that nothing else uses. -/
def run (a : Access Note) (lane : String) (d : Database) : Reply × Database :=
  let (reply, ws) := a.outcome ⟨lane, false⟩ ⟨d, [], false⟩
  (reply, ws.database)

/-- A job whose caller waits is such an access if it is on the database alone. -/
theorem onDatabase_call {α : Type} {job : Job Note α} (h : job.OnDatabase) (caller : Caller)
    (resume : Except StoreError α → Client Note) :
    (work (.call job caller resume)).OnDatabase := by
  intro s s' ws ws' hlane hdatabase
  obtain ⟨hresult, hafter⟩ := h s s' ws ws' hlane hdatabase
  refine ⟨?_, hafter⟩
  simp only [outcome, Work.outcome, Job.outcome_eq, hresult]

/-- So is a job with a completion. -/
theorem onDatabase_async {α : Type} {job : Job Note α}
    {completion : Except StoreError α → Job Note Unit} (h : job.OnDatabase)
    (hcompletion : ∀ result, (completion result).OnDatabase) :
    (work (.async job completion)).OnDatabase := by
  intro s s' ws ws' hlane hdatabase
  obtain ⟨hresult, hafter⟩ := h s s' ws ws' hlane hdatabase
  simp only [outcome, Work.outcome, Job.outcome_eq, hresult]
  exact ⟨trivial, (hcompletion _ s s' _ _ hlane hafter).2⟩

/-- So is a migration. -/
theorem onDatabase_migration {t : MigrationTask Note}
    (hstep : ∀ version, (t.migration.step version).OnDatabase)
    (hfinalize : ∀ finalize ∈ t.migration.finalize, ∀ version, (finalize version).OnDatabase) :
    (migration t).OnDatabase := by
  intro s s' ws ws' hlane hdatabase
  obtain ⟨hresult, hafter⟩ :=
    Migration.onDatabase_runGuarded hstep hfinalize s s' ws ws' hlane hdatabase
  refine ⟨?_, hafter⟩
  simp only [outcome, Job.outcome_eq, hresult]

/-- What holds of the jobs that an access runs. -/
def Jobs (holds : ∀ {α : Type}, Job Note α → Prop) : Access Note → Prop
  | work (.call job _ _) => holds job
  | work (.async job completion) => holds job ∧ ∀ result, holds (completion result)
  | migration t =>
      (∀ version, holds (t.migration.step version)) ∧
        ∀ finalize ∈ t.migration.finalize, ∀ version, holds (finalize version)

/-- An access is on the database alone if its jobs are. -/
theorem onDatabase_of_jobs {a : Access Note} (h : a.Jobs Job.OnDatabase) : a.OnDatabase := by
  rcases a with (⟨job, caller, resume⟩ | ⟨job, completion⟩) | t
  · exact onDatabase_call h caller resume
  · exact onDatabase_async h.1 h.2
  · exact onDatabase_migration h.1 h.2

/-- Made by itself, such an access tells and leaves the same. -/
theorem OnDatabase.run_eq {a : Access Note} (h : a.OnDatabase) (s : Surroundings)
    (ws : Workspace Note) :
    a.run s.lane ws.database = ((a.outcome s ws).1, (a.outcome s ws).2.database) := by
  obtain ⟨hreply, hdatabase⟩ := h ⟨s.lane, false⟩ s ⟨ws.database, [], false⟩ ws rfl rfl
  rw [← hreply, ← hdatabase]
  rfl

end Access

/-- What is told and what is left when one thread makes the accesses one after another. -/
def sequential (lane : Access Note → String) (d : Database) :
    List (Access Note) → List Reply × Database
  | [] => ([], d)
  | a :: rest =>
      let (reply, d) := a.run (lane a) d
      let (replies, d) := sequential lane d rest
      (reply :: replies, d)

theorem sequential_append (lane : Access Note → String) (d : Database)
    (xs ys : List (Access Note)) :
    sequential lane d (xs ++ ys)
      = ((sequential lane d xs).1 ++ (sequential lane (sequential lane d xs).2 ys).1,
        (sequential lane (sequential lane d xs).2 ys).2) := by
  induction xs generalizing d with
  | nil => rfl
  | cons a xs ih => simp [sequential, ih]

namespace Engine

/-- The name of the thread that makes an access. -/
def laneOf (e : Engine Note) : Access Note → String
  | .work _ => e.accessName
  | .migration _ => e.migrationName

variable {e e' first : Engine Note} {events : List (Event Note)}

/-! ## What a turn is seen to do -/

/-- At most one thing is seen of a move. -/
theorem Turn.length_events (h : e.Turn events e') : events.length ≤ 1 := by
  have hcall {who : Caller} {p : Client Note} {e'' : Engine Note} {after : Progress Note}
      (hcall : Call e who p events e'' after) : events.length ≤ 1 := by
    cases hcall <;> simp
  cases h with
  | callback hlane h | client i hclient h => exact hcall h
  | _ => simp

/-- The engine keeps the workspace that an access leaves, and its names. -/
theorem withWorkspace_keeps (e : Engine Note) (ws : Workspace Note) :
    (e.withWorkspace ws).workspace = { ws with released := false } ∧
      (e.withWorkspace ws).laneOf = e.laneOf := by
  unfold withWorkspace
  split <;> exact ⟨rfl, rfl⟩

theorem serve_keeps (e : Engine Note) (w : Work Note) :
    (e.serve w).workspace
        = { ((Access.work w).outcome (e.surroundings (.work w)) e.workspace).2 with
            released := false } ∧
      (e.serve w).laneOf = e.laneOf := by
  cases w with
  | call job caller resume => cases caller <;> exact withWorkspace_keeps e _
  | async job completion => exact withWorkspace_keeps e _

theorem migrate_keeps (e : Engine Note) (t : MigrationTask Note) :
    (e.migrate t).workspace
        = { ((Access.migration t).outcome (e.surroundings (.migration t)) e.workspace).2 with
            released := false } ∧
      (e.migrate t).laneOf = e.laneOf := by
  have hkeeps := withWorkspace_keeps e
    (t.migration.runGuarded.outcome ⟨e.migrationName, e.isMigrating⟩ e.workspace).2
  obtain ⟨ticket, m, completion⟩ := t
  cases completion with
  | callback program => exact hkeeps
  | reply caller resume => cases caller <;> exact hkeeps

theorem Call.keeps {who : Caller} {p : Client Note} {after : Progress Note}
    (h : Call e who p events e' after) :
    e'.workspace = replay e.workspace events ∧ e'.laneOf = e.laneOf := by
  cases h <;> exact ⟨rfl, rfl⟩

/-- Only what is seen of a turn changes the workspace. -/
theorem Turn.keeps (h : e.Turn events e') :
    e'.workspace = replay e.workspace events ∧ e'.laneOf = e.laneOf := by
  cases h with
  | callback hlane h | client i hclient h => exact h.keeps
  | serve hlane => exact serve_keeps { e with accessLane := .idle } _
  | migrate hlane => exact migrate_keeps e _
  | _ => exact ⟨rfl, rfl⟩

/-- An access that ends tells what it has to, and where it ran. -/
theorem Turn.ended {a : Access Note} {s : Surroundings} {reply : Reply}
    (h : e.Turn [.ended a s reply] e') :
    s.lane = e.laneOf a ∧ reply = (a.outcome s e.workspace).1 := by
  cases h with
  | serve hlane => exact ⟨rfl, rfl⟩
  | migrate hlane => exact ⟨rfl, rfl⟩
  | callback hlane h | client i hclient h => cases h

/-- A turn leaves in the database what its access does by itself. -/
theorem Turn.sequential (h : e.Turn events e')
    (hdatabase : ∀ a ∈ endedIn events, a.OnDatabase) :
    SqlStore.sequential e.laneOf e.workspace.database (endedIn events)
      = (repliesIn events, e'.workspace.database) := by
  have haccess (a : Access Note) (hlane : (e.surroundings a).lane = e.laneOf a)
      (ha : a.OnDatabase) :
      SqlStore.sequential e.laneOf e.workspace.database [a]
        = (repliesIn [e.ending a], (replay e.workspace [e.ending a]).database) := by
    have hrun := ha.run_eq (e.surroundings a) e.workspace
    rw [hlane] at hrun
    simp only [SqlStore.sequential, hrun]
    rfl
  have hworkspace := h.keeps.1
  rw [hworkspace]
  cases h with
  | @serve w hlane => exact haccess (.work w) rfl (hdatabase (.work w) List.mem_cons_self)
  | @migrate t hlane =>
      exact haccess (.migration t) rfl (hdatabase (.migration t) List.mem_cons_self)
  | callback hlane h | client i hclient h => cases h <;> rfl
  | _ => rfl

/-! ## What a run is seen to do -/

/-- A run up to any of its events, the turn that this is seen of, and the rest of the run. -/
theorem Run.split (h : Run first events e) {xs : List (Event Note)} {event : Event Note}
    {ys : List (Event Note)} (hevents : events = xs ++ event :: ys) :
    ∃ before after, Run first xs before ∧ before.Turn [event] after ∧ Run after ys e := by
  induction h generalizing ys with
  | refl => simp at hevents
  | @tail events more last e hrun hturn ih =>
      have hlength := hturn.length_events
      rcases more with _ | ⟨next, _ | ⟨other, more⟩⟩
      · obtain ⟨before, after, hxs, hevent, hys⟩ := ih (by simpa using hevents)
        exact ⟨before, after, hxs, hevent, by simpa using hys.tail hturn⟩
      · -- The event is the last one, or it is among the earlier ones.
        rcases List.eq_nil_or_concat ys with rfl | ⟨ys, y, rfl⟩
        · obtain ⟨rfl, hlast⟩ := List.append_inj' hevents rfl
          cases hlast
          exact ⟨last, e, hrun, hturn, .refl⟩
        · have hinit : events ++ [next] = (xs ++ event :: ys) ++ [y] := by simpa using hevents
          obtain ⟨hearlier, hlast⟩ := List.append_inj' hinit rfl
          cases hlast
          obtain ⟨before, after, hxs, hevent, hys⟩ := ih hearlier
          exact ⟨before, after, hxs, hevent, by simpa using hys.tail hturn⟩
      · simp at hlength

/-- The messages that were queued are those whose accesses have ended and those still to come. -/
theorem Run.pending (hfirst : first.Ordered) (h : Run first events e) :
    first.pending ++ queuedIn events = (endedIn events).map Access.message ++ e.pending := by
  induction h with
  | refl => simp
  | tail hrun hturn ih =>
      have hnext := hturn.pending (hrun.ordered hfirst)
      rw [queuedIn_append, ← List.append_assoc, ih, List.append_assoc, hnext]
      simp

/-- The migrations that were requested are those that have ended and those still to come. -/
theorem Run.tasks (hfirst : first.Ordered) (h : Run first events e) :
    first.tasks ++ requestedIn events
      = (endedIn events).filterMap Access.migration? ++ e.tasks := by
  induction h with
  | refl => simp
  | tail hrun hturn ih =>
      have hnext := hturn.tasks (hrun.ordered hfirst)
      rw [requestedIn_append, ← List.append_assoc, ih, List.append_assoc, hnext]
      simp

/-- The accesses that began are those that have ended and the one that is going on. -/
theorem Run.current (hfirst : first.Ordered) (h : Run first events e) :
    first.current ++ begunIn events = endedIn events ++ e.current := by
  induction h with
  | refl => simp
  | tail hrun hturn ih =>
      have hnext := hturn.current (hrun.ordered hfirst)
      rw [begunIn_append, ← List.append_assoc, ih, List.append_assoc, hnext]
      simp

/-- Only what is seen of a run changes the workspace. -/
theorem Run.keeps (h : Run first events e) :
    e.workspace = replay first.workspace events ∧ e.laneOf = first.laneOf := by
  induction h with
  | refl => exact ⟨rfl, rfl⟩
  | tail hrun hturn ih =>
      obtain ⟨hworkspace, hlane⟩ := hturn.keeps
      rw [hworkspace, hlane, ih.1, ih.2]
      exact ⟨(List.foldl_append ..).symm, rfl⟩

/-- A run leaves in the database what its accesses do one after another. -/
theorem Run.sequential (h : Run first events e) (hdatabase : ∀ a ∈ endedIn events, a.OnDatabase) :
    SqlStore.sequential first.laneOf first.workspace.database (endedIn events)
      = (repliesIn events, e.workspace.database) := by
  induction h with
  | refl => rfl
  | @tail events more before after hrun hturn ih =>
      rw [endedIn_append] at hdatabase
      have hearlier := ih fun a ha => hdatabase a (List.mem_append_left _ ha)
      have hlast := hturn.sequential fun a ha => hdatabase a (List.mem_append_right _ ha)
      rw [hrun.keeps.2] at hlast
      rw [endedIn_append, sequential_append, hearlier]
      simp only [hlast, repliesIn, List.filterMap_append]

/-! ## Tickets of a run -/

/-- The migration that ends in a turn has the next ticket. -/
theorem Turn.left (he : e.Ordered) (h : e.Turn events e') :
    ∃ n, ((endedIn events).filterMap Access.migration?).map (·.ticket)
        = List.range' (e.left + 1) n ∧ e'.left = e.left + n := by
  cases h with
  | @serve w hlane =>
      obtain ⟨lane, hagrees, -⟩ := serve_agrees { e with accessLane := .idle } w
      exact ⟨0, by simp [ending], hagrees.left⟩
  | @migrate t hlane =>
      obtain ⟨lane, hagrees, -⟩ := migrate_agrees e t
      have hnext := (he.pending_migrating hlane).1
      have hleft : (e.migrate t).left = max e.left t.ticket := hagrees.left
      refine ⟨1, ?_, by omega⟩
      simp [ending, hnext]
  | callback hlane h | client i hclient h =>
      refine ⟨0, ?_, h.lanes.2.2.2⟩
      rw [h.accesses.2]
      rfl
  | _ => exact ⟨0, rfl, rfl⟩

/-- The migrations that have ended carry the tickets that have left, in order. -/
theorem Run.left (hfirst : first.Ordered) (h : Run first events e) :
    ∃ n, ((endedIn events).filterMap Access.migration?).map (·.ticket)
        = List.range' (first.left + 1) n ∧ e.left = first.left + n := by
  induction h with
  | refl => exact ⟨0, rfl, rfl⟩
  | tail hrun hturn ih =>
      obtain ⟨n, htickets, hleft⟩ := ih
      obtain ⟨m, hmore, hleft'⟩ := hturn.left (hrun.ordered hfirst)
      refine ⟨n + m, ?_, by omega⟩
      rw [endedIn_append, List.filterMap_append, List.map_append, htickets, hmore, hleft,
        ← List.range'_append_1]
      congr 2
      omega

/-- The message of an access is a fence if and only if the access is a migration. -/
theorem filterMap_ticket_map_message (as : List (Access Note)) :
    (as.map Access.message).filterMap AccessMessage.ticket?
      = (as.filterMap Access.migration?).map (·.ticket) := by
  rw [List.filterMap_map, List.map_filterMap]
  congr 1
  funext a
  cases a <;> rfl

/-- Where an access is going on, its message is the next one. -/
theorem Ordered.pending_current (he : e.Ordered) {a : Access Note} {rest : List (Access Note)}
    (hcurrent : e.current = a :: rest) : ∃ later, e.pending = a.message :: later := by
  cases hlane : e.accessLane with
  | serving w =>
      rw [Engine.current, hlane] at hcurrent
      cases hcurrent
      exact ⟨_, by rw [Engine.pending, hlane]; rfl⟩
  | idle | fenced | stopped =>
      rw [Engine.current, hlane] at hcurrent
      cases hmigration : e.migrationLane with
      | migrating t =>
          rw [hmigration] at hcurrent
          cases hcurrent
          exact ⟨_, (he.pending_migrating hmigration).2⟩
      | _ =>
          rw [hmigration] at hcurrent
          cases hcurrent

/-- A fence stands at one place only, if no two fences have the same ticket. -/
theorem earlier_eq {messages earlier later earlier' later' : List (AccessMessage Note)}
    {ticket : Nat} (hnodup : (messages.filterMap AccessMessage.ticket?).Nodup)
    (h : messages = earlier ++ .fence ticket :: later)
    (h' : messages = earlier' ++ .fence ticket :: later') : earlier = earlier' := by
  have hfence : (.fence ticket :: later : List (AccessMessage Note)).filterMap AccessMessage.ticket?
      = ticket :: later.filterMap AccessMessage.ticket? := rfl
  rw [h, List.filterMap_append, hfence, List.nodup_middle, List.nodup_cons] at hnodup
  have hnot (ms : List (AccessMessage Note))
      (hms : ticket ∉ ms.filterMap AccessMessage.ticket?) : .fence ticket ∉ ms := by
    intro hmem
    exact hms (List.mem_filterMap.mpr ⟨_, hmem, rfl⟩)
  have hearlier := hnot earlier fun hmem => hnodup.1 (List.mem_append_left _ hmem)
  have hlater := hnot later fun hmem => hnodup.1 (List.mem_append_right _ hmem)
  exact ((List.append_cons_inj_of_notMem hearlier hlater).mp (h.symm.trans h')).1

/-! ## The order of a run -/

/-- The run of an engine is one thing after another, in the order of the access queue. -/
structure Linear (first : Engine Note) (events : List (Event Note)) (e : Engine Note) : Prop where
  /-- Accesses end in the order in which their messages were queued, and none is left out. -/
  queued : queuedIn events = (endedIn events).map Access.message ++ e.pending
  /-- Migrations end in the order in which they were requested, and none is left out. -/
  requested : requestedIn events = (endedIn events).filterMap Access.migration? ++ e.tasks
  /-- No two fences have the same ticket, and the tasks have their tickets in the same order. -/
  tickets : ∃ n, (queuedIn events).filterMap AccessMessage.ticket? = List.range' 1 n ∧
    (requestedIn events).map (·.ticket) <+: List.range' 1 n
  /-- One access is going on at most. -/
  begun : begunIn events = endedIn events ++ e.current ∧ e.current.length ≤ 1
  /-- An access begins when just what was queued before its message has ended. -/
  began : ∀ xs a ys, events = xs ++ .began a :: ys → begunIn xs = endedIn xs ∧
    ∃ later, queuedIn xs = (endedIn xs).map Access.message ++ a.message :: later
  /-- Nothing begins until it ends; it tells what it tells in a replay. -/
  ended : ∀ xs a s reply ys, events = xs ++ .ended a s reply :: ys →
    begunIn xs = endedIn xs ++ [a] ∧ s.lane = first.laneOf a ∧
      reply = (a.outcome s (replay first.workspace xs)).1
  /-- When a migration begins, what has ended is just what was queued before its fence. -/
  migrationBegan : ∀ xs t ys, events = xs ++ .began (.migration t) :: ys →
    ∀ earlier later, queuedIn events = earlier ++ .fence t.ticket :: later →
      (endedIn xs).map Access.message = earlier
  /-- When it ends, what has begun is that and the migration. -/
  migrationEnded : ∀ xs t s reply ys, events = xs ++ .ended (.migration t) s reply :: ys →
    ∀ earlier later, queuedIn events = earlier ++ .fence t.ticket :: later →
      (begunIn xs).map Access.message = earlier ++ [.fence t.ticket]
  /-- The workspace is that of a replay. -/
  workspace : e.workspace = replay first.workspace events
  /-- If the accesses are on the database alone, the database and the replies are those of one
  thread that goes through the queue. -/
  database : (∀ a ∈ endedIn events, a.OnDatabase) →
    SqlStore.sequential first.laneOf first.workspace.database (endedIn events)
      = (repliesIn events, e.workspace.database)

section

variable {xs ys : List (Event Note)} {a : Access Note}

/-- An access begins when just what was queued before its message has ended. -/
theorem Run.began (hfirst : first.Ordered) (hpending : first.pending = [])
    (hcurrent : first.current = []) (h : Run first (xs ++ .began a :: ys) e) :
    begunIn xs = endedIn xs ∧
      ∃ later, queuedIn xs = (endedIn xs).map Access.message ++ a.message :: later := by
  obtain ⟨before, after, hrun, hturn, -⟩ := h.split rfl
  have hbefore := hrun.ordered hfirst
  have hafter := hturn.ordered hbefore
  have hlength := hafter.length_current
  have hturnCurrent := hturn.current hbefore
  have hturnPending := hturn.pending hbefore
  have hrunCurrent := hrun.current hfirst
  have hrunPending := hrun.pending hfirst
  simp only [begunIn_cons, begunIn_nil, endedIn_cons, endedIn_nil, queuedIn_cons, queuedIn_nil,
    Event.begun?, Event.ended?, Event.queued?, Option.toList_some, Option.toList_none,
    List.append_nil, List.nil_append, List.map_nil] at hturnCurrent hturnPending
  rw [← hturnCurrent, List.length_append, List.length_singleton] at hlength
  have hnone : before.current = [] := List.length_eq_zero_iff.mp (by omega)
  rw [hnone, List.nil_append] at hturnCurrent
  obtain ⟨later, hlater⟩ := hafter.pending_current hturnCurrent.symm
  rw [hcurrent, hnone, List.nil_append, List.append_nil] at hrunCurrent
  rw [hpending, List.nil_append, hturnPending, hlater] at hrunPending
  exact ⟨hrunCurrent, later, hrunPending⟩

/-- Between its beginning and its end nothing else begins or ends. -/
theorem Run.ended (hfirst : first.Ordered) (hpending : first.pending = [])
    (hcurrent : first.current = []) {s : Surroundings} {reply : Reply}
    (h : Run first (xs ++ .ended a s reply :: ys) e) :
    (begunIn xs = endedIn xs ++ [a] ∧ s.lane = first.laneOf a ∧
      reply = (a.outcome s (replay first.workspace xs)).1) ∧
      ∃ later, queuedIn xs = (endedIn xs).map Access.message ++ a.message :: later := by
  obtain ⟨before, after, hrun, hturn, -⟩ := h.split rfl
  have hbefore := hrun.ordered hfirst
  have hlength := hbefore.length_current
  obtain ⟨hlane, hreply⟩ := hturn.ended
  obtain ⟨hworkspace, hnames⟩ := hrun.keeps
  have hturnCurrent := hturn.current hbefore
  have hrunCurrent := hrun.current hfirst
  have hrunPending := hrun.pending hfirst
  simp only [begunIn_cons, begunIn_nil, endedIn_cons, endedIn_nil, Event.begun?, Event.ended?,
    Option.toList_some, Option.toList_none, List.append_nil, List.singleton_append]
    at hturnCurrent
  rw [hturnCurrent, List.length_cons] at hlength
  have hnone : after.current = [] := List.length_eq_zero_iff.mp (by omega)
  rw [hnone] at hturnCurrent
  obtain ⟨later, hlater⟩ := hbefore.pending_current hturnCurrent
  rw [hcurrent, hturnCurrent, List.nil_append] at hrunCurrent
  rw [hpending, List.nil_append, hlater] at hrunPending
  rw [hnames] at hlane
  rw [hworkspace] at hreply
  exact ⟨⟨hrunCurrent, hlane, hreply⟩, later, hrunPending⟩

end

/-- The fences carry the tickets from the first one on, and so do the tasks, as far as they are. -/
theorem Run.tickets (hfirst : first.Ordered) (hleft : first.left = 0)
    (hpending : first.pending = []) (htasks : first.tasks = []) (h : Run first events e) :
    ∃ n, (queuedIn events).filterMap AccessMessage.ticket? = List.range' 1 n ∧
      (requestedIn events).map (·.ticket) <+: List.range' 1 n := by
  obtain ⟨hfences, htaskTickets, -, hfenceCount, htaskCount⟩ := (h.ordered hfirst).tickets
  obtain ⟨done, hdone, hdoneLeft⟩ := h.left hfirst
  have hqueued := h.pending hfirst
  have hrequested := h.tasks hfirst
  rw [hpending, List.nil_append] at hqueued
  rw [htasks, List.nil_append] at hrequested
  rw [hleft, Nat.zero_add] at hdone hdoneLeft
  -- The tickets of what has ended are followed by those of what is still to come.
  have happend (n : Nat) : List.range' 1 done ++ List.range' (e.left + 1) n
      = List.range' 1 (done + n) := by
    rw [hdoneLeft, ← List.range'_append_1, Nat.add_comm 1 done]
  refine ⟨done + e.tickets.fences.length, ?_, ?_⟩
  · rw [hqueued, List.filterMap_append, filterMap_ticket_map_message, hdone, ← happend]
    congr 1
  · have hcount : e.tickets.tasks.length ≤ e.tickets.fences.length := by
      cases hsubmission : e.tickets.submission with
      | none =>
          rw [hsubmission] at hfenceCount htaskCount
          simp at hfenceCount htaskCount
          omega
      | some s =>
          rw [hsubmission] at hfenceCount htaskCount
          simp at hfenceCount htaskCount
          split at hfenceCount <;> omega
    have htickets : (requestedIn events).map (·.ticket)
        = List.range' 1 (done + e.tickets.tasks.length) := by
      rw [hrequested, List.map_append, hdone, ← happend]
      congr 1
    obtain ⟨more, hmore⟩ := Nat.exists_eq_add_of_le hcount
    rw [htickets, hmore, ← Nat.add_assoc]
    exact ⟨_, List.range'_append_1⟩

/-- A run is linear if it starts where nothing has been asked for. -/
theorem Run.linear_of_ordered (hfirst : first.Ordered) (hleft : first.left = 0)
    (hpending : first.pending = []) (htasks : first.tasks = []) (hcurrent : first.current = [])
    (h : Run first events e) : Linear first events e := by
  have htickets := h.tickets hfirst hleft hpending htasks
  have hqueuedIn := h.pending hfirst
  have hrequestedIn := h.tasks hfirst
  have hbegunIn := h.current hfirst
  rw [hpending, List.nil_append] at hqueuedIn
  rw [htasks, List.nil_append] at hrequestedIn
  rw [hcurrent, List.nil_append] at hbegunIn
  have hnodup : ((queuedIn events).filterMap AccessMessage.ticket?).Nodup := by
    obtain ⟨n, hfences, -⟩ := htickets
    rw [hfences]
    exact List.nodup_range'
  -- What is queued before an event stays in front of what is queued later.
  have hfront {xs ys : List (Event Note)} {done later : List (AccessMessage Note)} {ticket : Nat}
      (hevents : events = xs ++ ys) (hxs : queuedIn xs = done ++ .fence ticket :: later) :
      queuedIn events = done ++ .fence ticket :: (later ++ queuedIn ys) := by
    rw [hevents, queuedIn_append, hxs, List.append_assoc, List.cons_append]
  refine ⟨hqueuedIn, hrequestedIn, htickets, ⟨hbegunIn, (h.ordered hfirst).length_current⟩,
    ?_, ?_, ?_, ?_, h.keeps.1, h.sequential⟩
  · rintro xs a ys rfl
    exact h.began hfirst hpending hcurrent
  · rintro xs a s reply ys rfl
    exact (h.ended hfirst hpending hcurrent).1
  · intro xs t ys hevents earlier later hqueued
    subst hevents
    obtain ⟨-, more, hmore⟩ := h.began hfirst hpending hcurrent
    exact earlier_eq hnodup (hfront rfl hmore) hqueued
  · intro xs t s reply ys hevents earlier later hqueued
    subst hevents
    obtain ⟨⟨hbegun, -, -⟩, more, hmore⟩ := h.ended hfirst hpending hcurrent
    have hearlier := earlier_eq hnodup (hfront rfl hmore) hqueued
    rw [hbegun, List.map_append, hearlier]
    rfl

/-- Every run of an engine is linear, whatever its clients do. -/
theorem Run.linear {accessName migrationName : String} {ws : Workspace Note}
    {clients : List (Client Note)}
    (h : Run { start accessName migrationName ws with clients := clients.map .running } events e) :
    Linear { start accessName migrationName ws with clients := clients.map .running } events e :=
  h.linear_of_ordered (ordered_start accessName migrationName ws (clients.map Progress.running))
    rfl rfl rfl rfl

/-- So is what is seen of the moves that reach a state. -/
theorem Reaches.exists_linear {accessName migrationName : String} {ws : Workspace Note}
    {clients : List (Client Note)}
    (h : Reaches { start accessName migrationName ws with clients := clients.map .running } e) :
    ∃ events,
      Run { start accessName migrationName ws with clients := clients.map .running } events e ∧
      Linear { start accessName migrationName ws with clients := clients.map .running } events
        e := by
  obtain ⟨events, hrun⟩ := reaches_iff_run.mp h
  have hfirst := ordered_start accessName migrationName ws (clients.map Progress.running)
  exact ⟨events, hrun, hrun.linear_of_ordered hfirst rfl rfl rfl rfl⟩

/-- A job that was queued before a migration was requested, and the migration: the job is served
before the fence is reached, and both do what they do one after the other. -/
theorem linear_job_migration :
    let job : Job Unit Unit := Job.ofDb Db.openInMemory
    let m : Migration Unit := .new 1 fun _ => Job.ofDb (pure ())
    let first : Engine Unit := { start "access" "migration" ⟨.empty, [], false⟩ with
      clients := [.run job fun _ => .done, .migrate m (fun _ => .done) .done].map .running }
    ∃ events e, Run first events e ∧
      (endedIn events).map Access.message = queuedIn events ∧
      (endedIn events).length = 2 ∧
      SqlStore.sequential first.laneOf .empty (endedIn events)
        = (repliesIn events, e.workspace.database) := by
  intro job m first
  have h₀ : Run first [] first := .refl
  have h₁ := h₀.tail (.client 0 rfl (.run _ _))
  have h₂ := h₁.tail (.client 1 rfl (.enter (.migrate _ _ _) rfl))
  have h₃ := h₂.tail (.client 1 rfl (.fence (.migrate _ _ _) rfl))
  have h₄ := h₃.tail (.client 1 rfl (.task (.migrate _ _ _) rfl))
  have h₅ := h₄.tail (.takeWork rfl rfl)
  have h₆ := h₅.tail (.serve rfl)
  have h₇ := h₆.tail (.reachFence rfl rfl)
  have h₈ := h₇.tail (.takeTask rfl rfl)
  have h₉ := h₈.tail (.begin rfl (.head _))
  have h := h₉.tail (.migrate rfl)
  refine ⟨_, _, h, rfl, rfl, h.linear.database (List.forall_mem_cons.mpr ⟨?_, ?_⟩)⟩
  · exact Access.onDatabase_of_jobs (Job.onDatabase_ofDb _)
  · refine List.forall_mem_singleton.mpr (Access.onDatabase_of_jobs ⟨?_, ?_⟩)
    · exact fun _ => Job.onDatabase_ofDb _
    · rintro finalize ⟨⟩

end Engine

end SqlStore
