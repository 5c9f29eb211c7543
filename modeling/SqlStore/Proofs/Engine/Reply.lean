/-
# Replies

A caller that waits goes on when its reply comes, and nothing else moves it.  What brings the reply
is a message or a task before the lanes, and every turn keeps the two in step: for each caller
there are as many of them as it waits for.  A request for a migration on its way is in the hands of
a program that has just this request to go on with, so whoever keeps others from starting one can
move.

* `Engine.programOf`, `Engine.programOf_resume` : what a caller carries out, and how it goes on;
* `Engine.serve_resumes`, `Engine.migrate_resumes` : who goes on when an access ends;
* `Engine.owed`, `Engine.awaits` : the replies before the lanes, and those that are waited for;
* `Engine.Answered`, `Engine.Run.answered` : the invariant, and that runs keep it.
-/
import SqlStore.Proofs.Engine.Order

namespace SqlStore

variable {Note : Type}

/-! ## What brings a reply -/

/-- Whether the message brings a reply to the caller. -/
def AccessMessage.answers (who : Caller) : AccessMessage Note → Bool
  | work (.call _ caller _) => caller == who
  | _ => false

/-- Whether the task brings a reply to the caller. -/
def MigrationTask.answers (who : Caller) (t : MigrationTask Note) : Bool :=
  match t.completion with
  | .reply caller _ => caller == who
  | .callback _ => false

/-- Whether the end of the access brings a reply to the caller. -/
def Access.answers (who : Caller) : Access Note → Bool
  | work w => (AccessMessage.work w).answers who
  | migration t => t.answers who

/-- The replies of accesses are those of their messages and of their tasks. -/
theorem countP_answers (who : Caller) (as : List (Access Note)) :
    (as.map Access.message).countP (·.answers who)
        + (as.filterMap Access.migration?).countP (·.answers who)
      = as.countP (·.answers who) := by
  induction as with
  | nil => rfl
  | cons a as ih =>
      cases a with
      | work w =>
          have hnone : (Access.work w).migration? = none := rfl
          rw [List.map_cons, List.filterMap_cons_none hnone, List.countP_cons, List.countP_cons,
            Nat.add_right_comm, ih]
          rfl
      | migration t =>
          have hsome : (Access.migration t).migration? = some t := rfl
          have hfence : (Access.migration t).message.answers who = false := rfl
          rw [List.map_cons, List.filterMap_cons_some hsome, List.countP_cons, List.countP_cons,
            List.countP_cons, hfence, ← ih, ← Nat.add_assoc]
          rfl

/-- The caller of a job, and how it may go on. -/
inductive Work.Resumes : Work Note → Caller → Client Note → Prop
  | call {α : Type} (job : Job Note α) (caller : Caller)
      (resume : Except StoreError α → Client Note) (r : Except StoreError α) :
      Resumes (.call job caller resume) caller (resume r)

/-- Who goes on when a migration has ended, and how it may go on: the migration lane with the
completion, or the caller that waits. -/
inductive Completion.Resumes : Completion Note → Caller → Client Note → Prop
  | callback (program : Except StoreError Int32 → Client Note) (r : Except StoreError Int32) :
      Resumes (.callback program) .migrationLane (program r)
  | reply (caller : Caller) (resume : Except StoreError Int32 → Client Note)
      (r : Except StoreError Int32) : Resumes (.reply caller resume) caller (resume r)

/-- Who goes on when an access has ended. -/
def Access.Resumes : Access Note → Caller → Client Note → Prop
  | work w => w.Resumes
  | migration t => t.completion.Resumes

/-- An access brings no reply to anybody but who goes on. -/
theorem Access.answers_of_ne {a : Access Note} {caller who : Caller} {p : Client Note}
    (h : a.Resumes caller p) (hne : caller ≠ who) : a.answers who = false := by
  cases a with
  | work w =>
      cases h
      exact beq_false_of_ne hne
  | migration t =>
      obtain ⟨ticket, m, completion⟩ := t
      cases h with
      | callback => rfl
      | reply => exact beq_false_of_ne hne

/-- How many replies a program waits for. -/
@[simp] def Progress.replies : Progress Note → Nat
  | waiting => 1
  | running _ | joining => 0

namespace Engine

/-! ## Programs -/

/-- The program that a caller carries out. -/
def programOf (e : Engine Note) : Caller → Option (Progress Note)
  | .client i => e.clients[i]?
  | .migrationLane =>
      match e.migrationLane with
      | .completing p => some p
      | _ => none

section

variable {e e' : Engine Note} {who caller : Caller} {p : Client Note} {events : List (Event Note)}
  {after : Progress Note}

theorem programOf_congr (hclients : e.clients = e'.clients)
    (hlane : e.migrationLane = e'.migrationLane) (who : Caller) :
    e.programOf who = e'.programOf who := by
  cases who with
  | client i => exact congrArg (·[i]?) hclients
  | migrationLane => rw [programOf, programOf, hlane]

/-- A program goes on where its caller has got a reply, and the others stay. -/
theorem programOf_resume (e : Engine Note) (p : Client Note) (caller who : Caller) :
    (e.resume p caller).programOf who
      = if caller = who then (e.resume p caller).programOf caller else e.programOf who := by
  by_cases hcaller : caller = who
  · rw [if_pos hcaller, hcaller]
  · rw [if_neg hcaller]
    cases caller with
    | client i =>
        cases who with
        | client j =>
            have hij : i ≠ j := fun h => hcaller (congrArg Caller.client h)
            exact List.getElem?_set_ne hij
        | migrationLane => rfl
    | migrationLane =>
        cases who with
        | client j => rfl
        | migrationLane => exact absurd rfl hcaller

/-- The program that goes on is the one that it is resumed with. -/
theorem eq_of_programOf_resume {p q : Client Note}
    (h : (e.resume p caller).programOf caller = some (.running q)) : q = p := by
  cases caller with
  | client i =>
      have hset : (e.clients.set i (.running p))[i]? = some (.running q) := h
      rw [List.getElem?_set_self'] at hset
      cases hi : e.clients[i]? with
      | none => simp [hi] at hset
      | some old =>
          simp only [hi, Option.map_eq_map, Option.map_some, Option.some.injEq,
            Progress.running.injEq, Function.const_apply] at hset
          exact hset.symm
  | migrationLane =>
      cases h
      rfl

/-! ## Who goes on when an access ends -/

theorem withWorkspace_clients (e : Engine Note) (ws : Workspace Note) :
    (e.withWorkspace ws).clients = e.clients := by
  unfold withWorkspace
  extract_lets e'
  split <;> rfl

/-- How a caller goes on depends on the programs alone. -/
theorem programOf_resume_congr (h : ∀ who, e.programOf who = e'.programOf who) (p : Client Note)
    (caller who : Caller) :
    (e.resume p caller).programOf who = (e'.resume p caller).programOf who := by
  have hcaller : (e.resume p caller).programOf caller = (e'.resume p caller).programOf caller := by
    cases caller with
    | client i =>
        have hi : e.clients[i]? = e'.clients[i]? := h (.client i)
        show (e.clients.set i _)[i]? = (e'.clients.set i _)[i]?
        rw [List.getElem?_set_self', List.getElem?_set_self', hi]
    | migrationLane => rfl
  rw [programOf_resume e p caller who, programOf_resume e' p caller who, hcaller, h who]

/-- A workspace changes hands without a change of the programs. -/
theorem programOf_withWorkspace (e : Engine Note) (ws : Workspace Note) (who : Caller) :
    (e.withWorkspace ws).programOf who = e.programOf who :=
  programOf_congr (withWorkspace_clients e ws) (withWorkspace_agrees e ws).migrationLane who

/-- A job that has been served lets its caller go on, if it has one. -/
theorem serve_resumes (e : Engine Note) (w : Work Note) :
    (∀ who, (AccessMessage.work w).answers who = false ∧
      (e.serve w).programOf who = e.programOf who) ∨
    ∃ caller p, w.Resumes caller p ∧
      ∀ who, (e.serve w).programOf who = (e.resume p caller).programOf who := by
  cases w with
  | call job caller resume =>
      obtain ⟨r, after, -, hserve⟩ := e.serve_call job caller resume
      rw [hserve]
      exact .inr ⟨caller, resume r, .call job caller resume r,
        programOf_resume_congr (programOf_withWorkspace e after) (resume r) caller⟩
  | async job completion => exact .inl fun who => ⟨rfl, programOf_withWorkspace e _ who⟩

/-- A migration that has run lets its caller go on, or its completion begins. -/
theorem migrate_resumes {t : MigrationTask Note} (hlane : e.migrationLane = .migrating t) :
    ∃ caller p, t.completion.Resumes caller p ∧
      ∀ who, (e.migrate t).programOf who = (e.resume p caller).programOf who := by
  -- Neither a lane that migrates nor an idle one carries out a program.
  have hidle (ws : Workspace Note) (left : Nat) (who : Caller) :
      ({ e.withWorkspace ws with left, migrationLane := .idle } : Engine Note).programOf who
        = e.programOf who := by
    cases who with
    | client i => exact programOf_withWorkspace e ws (.client i)
    | migrationLane => rw [programOf, programOf, hlane]
  obtain ⟨ticket, m, completion⟩ := t
  cases completion with
  | callback program =>
      obtain ⟨r, after, -, hmigrate⟩ := e.migrate_callback ticket m program
      rw [hmigrate]
      exact ⟨.migrationLane, program r, .callback program r,
        programOf_resume_congr (hidle after _) (program r) .migrationLane⟩
  | reply caller resume =>
      obtain ⟨r, after, -, hmigrate⟩ := e.migrate_reply ticket m caller resume
      rw [hmigrate]
      exact ⟨caller, resume r, .reply caller resume r,
        programOf_resume_congr (hidle after _) (resume r) caller⟩

/-! ## Replies that are owed -/

/-- How many replies to the caller are before the lanes. -/
def owed (e : Engine Note) (who : Caller) : Nat :=
  e.pending.countP (·.answers who) + e.tasks.countP (·.answers who)

/-- How many replies the caller waits for. -/
def awaits (e : Engine Note) (who : Caller) : Nat := (e.programOf who).elim 0 Progress.replies

/-- A call asks for a reply if its program waits for one after it. -/
theorem Call.asked (h : Call e who p events e' after) (other : Caller) :
    (queuedIn events).countP (·.answers other) + (requestedIn events).countP (·.answers other)
      = if who = other then after.replies else 0 := by
  cases h with
  | run job next => by_cases hother : who = other <;> simp [AccessMessage.answers, hother]
  | task hp =>
      cases hp with
      | migrate => simp [MigrationTask.answers]
      | migrateBlocking hwho =>
          by_cases hother : who = other <;> simp [MigrationTask.answers, hother]
  | panic | note | runAsync | enter | fence | selfWait | isMigrating | releaseLane | release =>
      simp [AccessMessage.answers]

/-- Replies are owed from the call that asks for them to the end of the access that brings them. -/
theorem Turn.owed (he : e.Ordered) (h : e.Turn events e') (who : Caller) :
    e.owed who + ((queuedIn events).countP (·.answers who)
        + (requestedIn events).countP (·.answers who))
      = (endedIn events).countP (·.answers who) + e'.owed who := by
  have hpending := congrArg (List.countP (·.answers who)) (h.pending he)
  have htasks := congrArg (List.countP (·.answers who)) (h.tasks he)
  have hended := countP_answers who (endedIn events)
  rw [List.countP_append, List.countP_append] at hpending htasks
  unfold Engine.owed
  omega

theorem awaits_le (e : Engine Note) (who : Caller) : e.awaits who ≤ 1 := by
  unfold awaits
  rcases e.programOf who with _ | _ | _ | _ <;> simp

/-- A caller that has a program to carry out waits for no reply. -/
theorem awaits_of_running (hprogram : e.programOf who = some (.running p)) : e.awaits who = 0 := by
  rw [awaits, hprogram]
  rfl

/-- Who has just got a reply waits for none. -/
theorem awaits_resume (e : Engine Note) (p : Client Note) (caller who : Caller) :
    (e.resume p caller).awaits who = if caller = who then 0 else e.awaits who := by
  rw [awaits, programOf_resume]
  split
  · cases caller with
    | client i =>
        show ((e.clients.set i (.running p))[i]?).elim 0 Progress.replies = 0
        rw [List.getElem?_set_self']
        cases e.clients[i]? <;> rfl
    | migrationLane => rfl
  · rfl

end

/-- The caller has a request for a migration to go on with. -/
def Requesting (e : Engine Note) (who : Caller) : Prop :=
  ∃ p m c after, e.programOf who = some (.running p) ∧ Requests who p m c after

/-- Every reply that a caller waits for is before the lanes, and no other one; whoever has a
request on its way can go on with it; the fence in hand has been reached; and the migration lane
does not wait for the lanes to stop. -/
structure Answered (e : Engine Note) : Prop where
  replies : ∀ who, e.owed who = e.awaits who
  holder : ∀ s ∈ e.submission, e.Requesting s.holder
  fence : ∀ ticket, e.accessLane = .fenced ticket → ticket ∈ e.reached
  joining : e.programOf .migrationLane ≠ some .joining

/-- A new engine owes no reply. -/
theorem answered_start (accessName migrationName : String) (ws : Workspace Note)
    (clients : List (Client Note)) :
    ({ start accessName migrationName ws with
      clients := clients.map .running } : Engine Note).Answered := by
  refine ⟨?_, ?_, ?_, ?_⟩
  · intro who
    cases who with
    | client i =>
        show 0 = ((clients.map Progress.running)[i]?).elim 0 Progress.replies
        rw [List.getElem?_map]
        cases clients[i]? <;> rfl
    | migrationLane => rfl
  · rintro s ⟨⟩
  · rintro ticket ⟨⟩
  · rintro ⟨⟩

/-! ## What a turn does to the programs -/

/-- A turn leaves all programs, lets a caller go on whose access has ended, is a call of a program,
or puts an end to a program. -/
inductive Moves (e : Engine Note) (events : List (Event Note)) (e' : Engine Note) : Prop
  | stay (hqueued : queuedIn events = []) (hrequested : requestedIn events = [])
      (hended : ∀ a ∈ endedIn events, ∀ who, a.answers who = false)
      (hsubmission : e'.submission = e.submission)
      (hprograms : ∀ who, e'.programOf who = e.programOf who)
  | resume {a : Access Note} {caller : Caller} {p : Client Note} (hresumes : a.Resumes caller p)
      (hwaits : e.awaits caller = (a.answers caller).toNat)
      (hidle : ∀ q, e.programOf caller ≠ some (.running q))
      (hqueued : queuedIn events = []) (hrequested : requestedIn events = [])
      (hended : endedIn events = [a]) (hsubmission : e'.submission = e.submission)
      (hprograms : ∀ who, e'.programOf who = (e.resume p caller).programOf who)
  | call (who : Caller) {p : Client Note} {e₁ : Engine Note} {after : Progress Note}
      (hprogram : e.programOf who = some (.running p)) (hcall : Call e who p events e₁ after)
      (hsubmission : e'.submission = e₁.submission)
      (hprograms : ∀ other, e'.programOf other
        = if who = other then some after else e.programOf other)
  | finish (who : Caller) (last : Option (Progress Note)) (hqueued : queuedIn events = [])
      (hrequested : requestedIn events = []) (hended : endedIn events = [])
      (hsubmission : e'.submission = e.submission)
      (hbefore : e.programOf who = some (.running .done) ∨ e.programOf who = some .joining)
      (hlast : last = none ∨ last = some (.running .done))
      (hprograms : ∀ other, e'.programOf other = if who = other then last else e.programOf other)

section

variable {e e' : Engine Note} {who : Caller} {p : Client Note} {events : List (Event Note)}
  {after : Progress Note}

/-- A caller waits for the reply of an access that is going on. -/
theorem Answered.awaits_of_current (ha : e.Answered) {a : Access Note}
    (hcurrent : a ∈ e.current) (hanswers : a.answers who = true) : e.awaits who = 1 := by
  have howed : 0 < e.owed who := by
    rcases List.mem_append.mp hcurrent with haccess | hmigration
    · cases hlane : e.accessLane with
      | serving w =>
          rw [hlane] at haccess
          rw [List.mem_singleton.mp haccess] at hanswers
          have hmem : .work w ∈ e.pending := by
            rw [Engine.pending, hlane]
            exact List.mem_cons_self
          exact Nat.add_pos_left (List.countP_pos_iff.mpr ⟨_, hmem, hanswers⟩) _
      | idle | fenced | stopped =>
          rw [hlane] at haccess
          cases haccess
    · cases hlane : e.migrationLane with
      | migrating t =>
          rw [hlane] at hmigration
          rw [List.mem_singleton.mp hmigration] at hanswers
          have hmem : t ∈ e.tasks := by
            rw [Engine.tasks, hlane]
            exact List.mem_cons_self
          exact Nat.add_pos_right _ (List.countP_pos_iff.mpr ⟨_, hmem, hanswers⟩)
      | idle | awaiting | completing | stopped =>
          rw [hlane] at hmigration
          cases hmigration
  have hreplies := ha.replies who
  have hle := e.awaits_le who
  omega

/-- A caller that waits has no program to carry out. -/
theorem not_running_of_awaits (hwaits : e.awaits who = 1) (q : Client Note) :
    e.programOf who ≠ some (.running q) := by
  intro hprogram
  rw [awaits_of_running hprogram] at hwaits
  cases hwaits

/-- A program that is put in the place of another one. -/
theorem programOf_set {i : Nat} {old : Progress Note} (hold : e.clients[i]? = some old)
    (new : Progress Note) (other : Caller) :
    ({ e with clients := e.clients.set i new } : Engine Note).programOf other
      = if Caller.client i = other then some new else e.programOf other := by
  cases other with
  | client j =>
      show (e.clients.set i new)[j]? = _
      by_cases hij : i = j
      · subst hij
        rw [List.getElem?_set_self', hold]
        simp
      · rw [List.getElem?_set_ne hij]
        simp [hij, programOf]
  | migrationLane => rfl

/-- A call in itself leaves the programs as they are. -/
theorem Call.programOf (h : Call e who p events e' after) (other : Caller) :
    e'.programOf other = e.programOf other :=
  programOf_congr h.clients h.lanes.2.1 other

/-- What a turn does to the programs. -/
theorem Turn.moves (ha : e.Answered) (h : e.Turn events e') : e.Moves events e' := by
  cases h with
  | takeWork | reachFence | stopAccess | leaveFence =>
      exact .stay rfl rfl (by simp) rfl fun who => programOf_congr rfl rfl who
  | takeTask hlane | stopMigration hlane | begin hlane =>
      refine .stay rfl rfl (by simp) rfl fun who => ?_
      cases who with
      | client i => rfl
      | migrationLane => rw [programOf, programOf, hlane]
  | @serve w hlane =>
      have hcurrent : .work w ∈ e.current := by
        rw [Engine.current, hlane]
        exact List.mem_cons_self
      obtain ⟨lane, hagrees, -⟩ := serve_agrees { e with accessLane := .idle } w
      have hsubmission := hagrees.submission
      rcases serve_resumes { e with accessLane := .idle } w with hnobody |
        ⟨caller, p, hresumes, hprograms⟩
      · refine .stay rfl rfl ?_ hsubmission fun who => (hnobody who).2
        intro a hmem who
        rw [List.mem_singleton.mp hmem]
        exact (hnobody who).1
      · have hanswers : (Access.work w).answers caller = true := by
          cases hresumes
          exact beq_self_eq_true caller
        have hwaits := ha.awaits_of_current hcurrent hanswers
        refine .resume (a := .work w) hresumes ?_ (not_running_of_awaits hwaits) rfl rfl rfl
          hsubmission fun who => ?_
        · rw [hanswers, hwaits]
          rfl
        · have hsame (other : Caller) :
              ({ e with accessLane := .idle } : Engine Note).programOf other
                = e.programOf other := by
            cases other <;> rfl
          rw [hprograms who]
          exact programOf_resume_congr hsame p caller who
  | @migrate t hlane =>
      have hcurrent : .migration t ∈ e.current := by
        rw [Engine.current, hlane]
        exact List.mem_append_right _ List.mem_cons_self
      obtain ⟨lane, hagrees, -⟩ := migrate_agrees e t
      have hsubmission := hagrees.submission
      obtain ⟨caller, p, hresumes, hprograms⟩ := migrate_resumes hlane
      cases hanswers : t.answers caller with
      | true =>
          have hwaits := ha.awaits_of_current hcurrent hanswers
          refine .resume (a := .migration t) hresumes ?_ (not_running_of_awaits hwaits) rfl rfl rfl
            hsubmission hprograms
          rw [hwaits]
          exact congrArg Bool.toNat hanswers.symm
      | false =>
          -- Only a completion brings no reply, and the lane that begins it had no program.
          have hnone : e.programOf caller = none := by
            obtain ⟨ticket, m, completion⟩ := t
            cases hresumes with
            | callback => rw [programOf, hlane]
            | reply => simp [MigrationTask.answers] at hanswers
          refine .resume (a := .migration t) hresumes ?_ ?_ rfl rfl rfl hsubmission hprograms
          · rw [awaits, hnone]
            exact congrArg Bool.toNat hanswers.symm
          · rw [hnone]
            rintro q ⟨⟩
  | complete hlane =>
      refine .finish .migrationLane none rfl rfl rfl rfl (.inl ?_) (.inl rfl) ?_
      · rw [programOf, hlane]
      · intro other
        cases other <;> rfl
  | @callback p events e₁ after hlane hcall =>
      refine .call .migrationLane ?_ hcall rfl ?_
      · rw [programOf, hlane]
      · intro other
        cases other with
        | client i => exact congrArg (·[i]?) hcall.clients
        | migrationLane => rfl
  | @client i p events e₁ after hclient hcall =>
      refine .call (.client i) hclient hcall rfl fun other => ?_
      rw [← programOf_set hclient after other]
      cases other with
      | client j => rfl
      | migrationLane => exact hcall.programOf .migrationLane
  | join i hclient hstopped =>
      exact .finish (.client i) _ rfl rfl rfl rfl (.inr hclient) (.inr rfl)
        fun other => programOf_set hclient _ other

/-! ## What turns keep -/

/-- Every turn keeps the replies that are owed in step with those that are waited for. -/
theorem Turn.replies (he : e.Ordered) (ha : e.Answered) (h : e.Turn events e') (who : Caller) :
    e'.owed who = e'.awaits who := by
  have howed := h.owed he who
  rw [ha.replies who] at howed
  cases h.moves ha with
  | stay hqueued hrequested hended hsubmission hprograms =>
      have hnone : (endedIn events).countP (·.answers who) = 0 :=
        List.countP_eq_zero.mpr fun a hmem => by simp [hended a hmem who]
      have hsame : e'.awaits who = e.awaits who := by rw [awaits, awaits, hprograms who]
      rw [hqueued, hrequested, hnone] at howed
      simp only [List.countP_nil] at howed
      omega
  | @resume a caller p hresumes hwaits hidle hqueued hrequested hended hsubmission hprograms =>
      have hafter : e'.awaits who = if caller = who then 0 else e.awaits who := by
        rw [← awaits_resume e p, awaits, awaits, hprograms who]
      rw [hqueued, hrequested, hended, List.countP_singleton] at howed
      simp only [List.countP_nil] at howed
      by_cases hcaller : caller = who
      · subst hcaller
        rw [hwaits] at howed
        rw [hafter, if_pos rfl]
        cases hanswers : a.answers caller <;> simp [hanswers] at howed <;> omega
      · rw [Access.answers_of_ne hresumes hcaller] at howed
        rw [hafter, if_neg hcaller]
        simpa using howed.symm
  | @call caller p e₁ after hprogram hcall hsubmission hprograms =>
      rw [hcall.asked who, hcall.accesses.2, List.countP_nil, Nat.zero_add] at howed
      rw [awaits, hprograms who]
      by_cases hcaller : caller = who
      · subst hcaller
        rw [awaits_of_running hprogram, if_pos rfl] at howed
        simpa using howed.symm
      · rw [if_neg hcaller] at howed
        simpa [hcaller, awaits] using howed.symm
  | @finish caller last hqueued hrequested hended hsubmission hbefore hlast hprograms =>
      rw [hqueued, hrequested, hended] at howed
      simp only [List.countP_nil] at howed
      have hsame : e'.awaits who = e.awaits who := by
        rw [awaits, awaits, hprograms who]
        split
        · rename_i hcaller
          subst hcaller
          rcases hbefore with hbefore | hbefore <;> rcases hlast with hlast | hlast <;>
            rw [hbefore, hlast] <;> rfl
        · rfl
      omega

/-- A call leaves a request with a program that goes on with it, or with another caller. -/
theorem Call.holder (h : Call e who p events e' after) :
    ∀ s ∈ e'.submission, (s.holder = who ∧ ∃ q m c a, after = .running q ∧ Requests who q m c a) ∨
      (s ∈ e.submission ∧ ∀ m c a, ¬ Requests who p m c a) := by
  cases h with
  | enter hp =>
      rintro s ⟨⟩
      exact .inl ⟨rfl, _, _, _, _, rfl, hp⟩
  | fence hp =>
      rintro s ⟨⟩
      exact .inl ⟨rfl, _, _, _, _, rfl, hp⟩
  | task => rintro s ⟨⟩
  | selfWait hwho =>
      subst hwho
      intro s hs
      refine .inr ⟨hs, ?_⟩
      rintro m c a hrequest
      cases hrequest with
      | migrateBlocking hlane => cases hlane
  | panic | note | run | runAsync | isMigrating | releaseLane | release =>
      intro s hs
      refine .inr ⟨hs, ?_⟩
      rintro m c a ⟨⟩

/-- Whoever has a request on its way keeps the program that goes on with it. -/
theorem Turn.holder (ha : e.Answered) (h : e.Turn events e') :
    ∀ s ∈ e'.submission, e'.Requesting s.holder := by
  intro s hs
  cases h.moves ha with
  | stay hqueued hrequested hended hsubmission hprograms =>
      obtain ⟨p, m, c, a, hprogram, hrequest⟩ := ha.holder s (hsubmission ▸ hs)
      exact ⟨p, m, c, a, (hprograms _).trans hprogram, hrequest⟩
  | @resume access caller p hresumes hwaits hidle hqueued hrequested hended hsubmission hprograms =>
      obtain ⟨q, m, c, a, hprogram, hrequest⟩ := ha.holder s (hsubmission ▸ hs)
      have hother : caller ≠ s.holder := by
        rintro rfl
        exact hidle q hprogram
      refine ⟨q, m, c, a, ?_, hrequest⟩
      rw [hprograms, programOf_resume, if_neg hother, hprogram]
  | @call caller p e₁ after hprogram hcall hsubmission hprograms =>
      rcases hcall.holder s (hsubmission ▸ hs) with ⟨hcaller, q, m, c, a, rfl, hrequest⟩ |
        ⟨hbefore, hnot⟩
      · refine ⟨q, m, c, a, ?_, hcaller ▸ hrequest⟩
        rw [hprograms, if_pos hcaller.symm]
      · obtain ⟨q, m, c, a, hholder, hrequest⟩ := ha.holder s hbefore
        have hother : caller ≠ s.holder := by
          rintro rfl
          rw [hprogram] at hholder
          cases hholder
          exact hnot m c a hrequest
        refine ⟨q, m, c, a, ?_, hrequest⟩
        rw [hprograms, if_neg hother, hholder]
  | @finish caller last hqueued hrequested hended hsubmission hbefore hlast hprograms =>
      obtain ⟨q, m, c, a, hprogram, hrequest⟩ := ha.holder s (hsubmission ▸ hs)
      have hother : caller ≠ s.holder := by
        rintro rfl
        rw [hprogram] at hbefore
        rcases hbefore with hbefore | hbefore
        · cases hbefore
          cases hrequest
        · cases hbefore
      refine ⟨q, m, c, a, ?_, hrequest⟩
      rw [hprograms, if_neg hother, hprogram]

/-- The fence in hand has been reached. -/
theorem Turn.fence (ha : e.Answered) (h : e.Turn events e') :
    ∀ ticket, e'.accessLane = .fenced ticket → ticket ∈ e'.reached := by
  cases h with
  | takeWork | stopAccess | leaveFence => rintro ticket ⟨⟩
  | reachFence =>
      rintro ticket ⟨⟩
      exact List.mem_cons_self
  | @serve w hlane =>
      obtain ⟨lane, hagrees, -⟩ := serve_agrees { e with accessLane := .idle } w
      intro ticket hfence
      rw [hagrees.accessLane] at hfence
      cases hfence
  | takeTask | stopMigration | begin | complete | join => exact ha.fence
  | @migrate t hlane =>
      obtain ⟨lane, hagrees, -⟩ := migrate_agrees e t
      intro ticket hfence
      rw [hagrees.accessLane] at hfence
      rw [hagrees.reached]
      exact ha.fence ticket hfence
  | callback hlane hcall | client i hclient hcall =>
      obtain ⟨haccess, -, hreached, -⟩ := hcall.lanes
      intro ticket hfence
      rw [haccess] at hfence
      rw [hreached]
      exact ha.fence ticket hfence

/-- The migration lane does not wait for the lanes to stop. -/
theorem Turn.joining (ha : e.Answered) (h : e.Turn events e') :
    e'.programOf .migrationLane ≠ some .joining := by
  cases h.moves ha with
  | stay hqueued hrequested hended hsubmission hprograms =>
      rw [hprograms]
      exact ha.joining
  | @resume a caller p hresumes hwaits hidle hqueued hrequested hended hsubmission hprograms =>
      rw [hprograms]
      cases caller with
      | client i => exact ha.joining
      | migrationLane => rintro ⟨⟩
  | @call who p e₁ after hprogram hcall hsubmission hprograms =>
      rw [hprograms]
      split
      · rename_i hwho
        subst hwho
        cases hcall with
        | task hp => cases hp <;> rintro ⟨⟩
        | release hwho => cases hwho
        | _ => rintro ⟨⟩
      · exact ha.joining
  | @finish caller last hqueued hrequested hended hsubmission hbefore hlast hprograms =>
      rw [hprograms]
      split
      · rcases hlast with rfl | rfl <;> rintro ⟨⟩
      · exact ha.joining

/-- Every turn keeps the invariant. -/
theorem Turn.answered (he : e.Ordered) (ha : e.Answered) (h : e.Turn events e') : e'.Answered :=
  ⟨h.replies he ha, h.holder ha, h.fence ha, h.joining ha⟩

/-- Every engine that is reached from one that answers does so. -/
theorem Run.answered (he : e.Ordered) (ha : e.Answered) (h : Run e events e') : e'.Answered := by
  induction h with
  | refl => exact ha
  | tail hrun hturn ih => exact hturn.answered (hrun.ordered he) ih

end

end Engine

end SqlStore
