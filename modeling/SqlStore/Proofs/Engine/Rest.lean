/-
# Engines come to rest

A program of calls is finite, and nothing that a lane does makes a call by itself.  So every move
uses something up: a message, a program or what a lane has in hand gives way to finitely many
others of smaller weight.  Hence no engine moves for ever, whatever the order of the moves; an
engine that is left alone comes to a point where no thread can move.

* `Client.rank` : the rank of a program, above those of everything that becomes of it;
* `Engine.load` : the weights of all that an engine still has to do;
* `Engine.Turn.lighter` : every turn takes weight away;
* `Engine.wellFounded_step` : the moves of an engine come to an end.
-/
import Mathlib.Logic.Hydra
import Mathlib.SetTheory.Ordinal.Family
import Mathlib.Tactic.Abel
import SqlStore.Proofs.Engine.Tickets

namespace SqlStore

variable {Note : Type}

/-! ## Ranks and weights -/

/-- The rank of a program, above the rank of whatever it goes on with. -/
noncomputable def Client.rank : Client Note → Ordinal.{0}
  | done => 0
  | panic _ => 1
  | note _ next => next.rank + 1
  | run _ next => (⨆ r, (next r).rank) + 1
  | runAsync _ _ next => next.rank + 1
  | migrate _ completion next => max (⨆ r, (completion r).rank) next.rank + 1
  | migrateBlocking _ next => (⨆ r, (next r).rank) + 1
  | isMigrating next => (⨆ b, (next b).rank) + 1
  | release => 1

/-- The rank of whatever its caller goes on with. -/
noncomputable def Work.rank : Work Note → Ordinal.{0}
  | call _ _ resume => ⨆ r, (resume r).rank
  | async _ _ => 0

/-- The rank of whatever goes on after a migration. -/
noncomputable def Completion.rank : Completion Note → Ordinal.{0}
  | callback program => ⨆ r, (program r).rank
  | reply _ resume => ⨆ r, (resume r).rank

/-- The weight of something to be done: the rank of the programs that come of it, and how many moves
it takes until then. -/
abbrev Weight := Ordinal.{0} ×ₗ ℕ

namespace Weight

/-- The weight is larger than each of the others. -/
def Above (a : Weight) (more : Multiset Weight) : Prop := ∀ b ∈ more, b < a

@[simp] theorem above_zero (a : Weight) : a.Above 0 :=
  fun _ hb => absurd hb (Multiset.notMem_zero _)

@[simp] theorem above_singleton {a b : Weight} : a.Above {b} ↔ b < a := by
  simp [Above]

@[simp] theorem above_add {a : Weight} {more others : Multiset Weight} :
    a.Above (more + others) ↔ a.Above more ∧ a.Above others := by
  simp only [Above, Multiset.mem_add, or_imp, forall_and]

/-- What has fewer moves before it and no larger rank weighs less. -/
theorem lt_of_moves {a b : Ordinal.{0}} (h : a ≤ b) {m n : ℕ} (hmn : m < n) :
    (toLex (a, m) : Weight) < toLex (b, n) := by
  rcases h.lt_or_eq with hlt | rfl
  · exact Prod.Lex.toLex_lt_toLex.mpr (.inl hlt)
  · exact Prod.Lex.toLex_lt_toLex.mpr (.inr ⟨rfl, hmn⟩)

/-- What has no larger rank weighs less than what has the next one. -/
theorem lt_of_le {a b : Ordinal.{0}} (h : a ≤ b) (m n : ℕ) :
    (toLex (a, m) : Weight) < toLex (b + 1, n) :=
  Prod.Lex.toLex_lt_toLex.mpr (.inl (h.trans_lt (lt_add_one b)))

end Weight

/-- Some weights against others: one of them is replaced by smaller ones, others may be lost. -/
def Lighter (after before : Multiset Weight) : Prop :=
  ∃ lost more a, Weight.Above a more ∧ after + lost + {a} = before + more

/-- Weights do not get lighter for ever. -/
theorem wellFounded_lighter : WellFounded Lighter := by
  have hlose (after lost : Multiset Weight) :
      Relation.ReflTransGen (Relation.CutExpand (· < ·)) after (after + lost) := by
    induction lost using Multiset.induction with
    | empty => rw [add_zero]
    | cons a lost ih =>
        refine ih.tail ⟨0, a, Weight.above_zero a, ?_⟩
        rw [← Multiset.singleton_add]
        abel
  refine wellFounded_lt.cutExpand.transGen.mono fun after before h => ?_
  obtain ⟨lost, more, a, hmore, hload⟩ := h
  exact .tail' (hlose after lost) ⟨more, a, hmore, hload⟩

/-! ## Loads -/

/-- What the access lane has in hand when it has taken the message. -/
def AccessMessage.lane : AccessMessage Note → AccessLane Note
  | work w => .serving w
  | fence ticket => .fenced ticket
  | shutdown => .stopped

/-- What the migration lane has in hand when it has taken the message. -/
def MigrationMessage.lane : MigrationMessage Note → MigrationLane Note
  | task t => .awaiting t
  | shutdown => .stopped

/-- The weight of a program where it stands. -/
noncomputable def Progress.load : Progress Note → Multiset Weight
  | running p => {toLex (p.rank, 0)}
  | waiting => 0
  | joining => {toLex (0, 1)}

noncomputable def AccessMessage.load : AccessMessage Note → Multiset Weight
  | work w => {toLex (w.rank, 3)}
  | fence _ => {toLex (0, 2)}
  | shutdown => {toLex (0, 1)}

noncomputable def AccessLane.load : AccessLane Note → Multiset Weight
  | serving w => {toLex (w.rank, 2)}
  | fenced _ => {toLex (0, 1)}
  | idle | stopped => 0

noncomputable def MigrationMessage.load : MigrationMessage Note → Multiset Weight
  | task t => {toLex (t.completion.rank, 4)}
  | shutdown => {toLex (0, 1)}

noncomputable def MigrationLane.load : MigrationLane Note → Multiset Weight
  | awaiting t => {toLex (t.completion.rank, 3)}
  | migrating t => {toLex (t.completion.rank, 2)}
  | completing p => p.load
  | idle | stopped => 0

/-- A message weighs more than what the lane has in hand when it has taken it. -/
theorem AccessMessage.lane_load (m : AccessMessage Note) :
    ∃ a, m.load = {a} ∧ Weight.Above a m.lane.load := by
  cases m with
  | work w =>
      exact ⟨_, rfl, Weight.above_singleton.mpr (Weight.lt_of_moves le_rfl (Nat.lt_succ_self 2))⟩
  | fence ticket =>
      exact ⟨_, rfl, Weight.above_singleton.mpr (Weight.lt_of_moves le_rfl (Nat.lt_succ_self 1))⟩
  | shutdown => exact ⟨_, rfl, Weight.above_zero _⟩

theorem MigrationMessage.lane_load (m : MigrationMessage Note) :
    ∃ a, m.load = {a} ∧ Weight.Above a m.lane.load := by
  cases m with
  | task t =>
      exact ⟨_, rfl, Weight.above_singleton.mpr (Weight.lt_of_moves le_rfl (Nat.lt_succ_self 3))⟩
  | shutdown => exact ⟨_, rfl, Weight.above_zero _⟩

/-- The weight of what a request for a migration has before it until its task is posted. -/
noncomputable def Submission.load : Option Submission → Multiset Weight
  | none => {toLex (0, 4)}
  | some s => if s.fenced then 0 else {toLex (0, 3)}

namespace Engine

/-- All that an engine still has to do. -/
noncomputable def load (e : Engine Note) : Multiset Weight :=
  e.accessLane.load + (e.accessQueue.map AccessMessage.load).sum
    + (e.migrationLane.load + (e.migrationQueue.map MigrationMessage.load).sum)
    + (Submission.load e.submission + (e.clients.map Progress.load).sum)

section

variable {e e' : Engine Note} {who : Caller} {p : Client Note} {events : List (Event Note)}
  {after : Progress Note}

theorem post_load (e : Engine Note) (m : AccessMessage Note) :
    (e.post m).load = e.load + m.load := by
  simp only [load, post, List.map_append, List.map_cons, List.map_nil, List.sum_append,
    List.sum_cons, List.sum_nil]
  abel

theorem postMigration_load (e : Engine Note) (m : MigrationMessage Note) :
    (e.postMigration m).load = e.load + m.load := by
  simp only [load, postMigration, List.map_append, List.map_cons, List.map_nil, List.sum_append,
    List.sum_cons, List.sum_nil]
  abel

theorem submission_load (e : Engine Note) (entered : ℕ) (submission : Option Submission) :
    ({ e with entered, submission } : Engine Note).load + Submission.load e.submission
      = e.load + Submission.load submission := by
  simp only [load]
  abel

theorem shutDown_load (e : Engine Note) :
    e.shutDown.load = e.load + ({toLex (0, 1)} + {toLex (0, 1)}) := by
  rw [shutDown, post_load, postMigration_load, add_assoc]
  rfl

/-- One client in the place of another one. -/
theorem clients_load {i : ℕ} {old : Progress Note} (hold : e.clients[i]? = some old)
    (new : Progress Note) :
    ({ e with clients := e.clients.set i new } : Engine Note).load + old.load
      = e.load + new.load := by
  have hset (clients : List (Progress Note)) (i : ℕ) (hold : clients[i]? = some old) :
      ((clients.set i new).map Progress.load).sum + old.load
        = (clients.map Progress.load).sum + new.load := by
    induction clients generalizing i with
    | nil => cases hold
    | cons first rest ih =>
        cases i with
        | zero =>
            cases hold
            simp only [List.set_cons_zero, List.map_cons, List.sum_cons]
            abel
        | succ i =>
            simp only [List.set_cons_succ, List.map_cons, List.sum_cons, add_assoc, ih i hold]
  simp only [load, add_assoc, hset e.clients i hold]

theorem accessLane_load (e : Engine Note) (lane : AccessLane Note) :
    ({ e with accessLane := lane } : Engine Note).load + e.accessLane.load
      = e.load + lane.load := by
  simp only [load]
  abel

theorem migrationLane_load (e : Engine Note) (lane : MigrationLane Note) :
    ({ e with migrationLane := lane } : Engine Note).load + e.migrationLane.load
      = e.load + lane.load := by
  simp only [load]
  abel

/-- Whatever a workspace brings, the lanes are told to stop at most. -/
theorem withWorkspace_load (e : Engine Note) (ws : Workspace Note) :
    ∃ told : Multiset Weight, (∀ a : Weight, toLex (0, 1) < a → a.Above told) ∧
      (e.withWorkspace ws).load = e.load + told := by
  by_cases hreleased : ws.released = true
  · refine ⟨{toLex (0, 1)} + {toLex (0, 1)}, fun a ha => ?_, ?_⟩
    · exact Weight.above_add.mpr ⟨Weight.above_singleton.mpr ha, Weight.above_singleton.mpr ha⟩
    · rw [withWorkspace, if_pos hreleased]
      exact shutDown_load { e with workspace := { ws with released := false } }
  · refine ⟨0, fun a _ => Weight.above_zero a, ?_⟩
    rw [withWorkspace, if_neg hreleased, add_zero]
    rfl

/-- Who gets a reply loses the program that it had, if it had one. -/
theorem resume_load (e : Engine Note) (p : Client Note) (caller : Caller) :
    ∃ lost, (e.resume p caller).load + lost = e.load + {toLex (p.rank, 0)} := by
  cases caller with
  | client i =>
      cases hold : e.clients[i]? with
      | none =>
          refine ⟨{toLex (p.rank, 0)}, ?_⟩
          rw [resume, List.set_eq_of_length_le (List.getElem?_eq_none_iff.mp hold)]
      | some old => exact ⟨old.load, clients_load hold (.running p)⟩
  | migrationLane => exact ⟨e.migrationLane.load, migrationLane_load e (.completing (.running p))⟩

/-! ## Moves take weight away -/

/-- The request for a migration weighs more than its task and where it stands afterwards. -/
theorem Requests.above {m : Migration Note} {c : Completion Note} (hp : Requests who p m c after) :
    Weight.Above (toLex (p.rank, 0))
      ({toLex (c.rank, 4)} + {toLex (0, 4)} + after.load) := by
  cases hp with
  | migrate m completion next =>
      simp only [Weight.above_add, Weight.above_singleton, Progress.load]
      exact ⟨⟨Weight.lt_of_le (le_max_left _ _) 4 0, Weight.lt_of_le bot_le 4 0⟩,
        Weight.lt_of_le (le_max_right _ _) 0 0⟩
  | migrateBlocking hwho m next =>
      simp only [Weight.above_add, Weight.above_singleton, Progress.load]
      exact ⟨⟨Weight.lt_of_le le_rfl 4 0, Weight.lt_of_le bot_le 4 0⟩, Weight.above_zero _⟩

/-- A call replaces its program, or a part of the request that it carries on, by lighter ones. -/
theorem Call.load (h : Call e who p events e' after) :
    ∃ more a, Weight.Above a more ∧
      e'.load + after.load + {a} = e.load + {toLex (p.rank, 0)} + more := by
  -- All but the first two parts of a request are at the expense of the program.
  have hprogram (more : Multiset Weight) (hmore : Weight.Above (toLex (p.rank, 0)) more)
      (hload : e'.load + after.load = e.load + more) :
      ∃ more a, Weight.Above a more ∧
        e'.load + after.load + {a} = e.load + {toLex (p.rank, 0)} + more :=
    ⟨more, _, hmore, by rw [hload]; abel⟩
  have hrelease (n : ℕ) :
      (toLex (0, n) : Weight) < toLex ((Client.release : Client Note).rank, 0) := by
    have hzero := Weight.lt_of_le (le_refl (0 : Ordinal)) n 0
    rwa [zero_add] at hzero
  cases h with
  | panic message => exact hprogram {toLex (0, 0)} (Weight.above_singleton.mpr (hrelease 0)) rfl
  | note n next => exact hprogram _ (Weight.above_singleton.mpr (Weight.lt_of_le le_rfl 0 0)) rfl
  | run job next =>
      refine hprogram _ (Weight.above_singleton.mpr (Weight.lt_of_le le_rfl 3 0)) ?_
      rw [post_load]
      exact add_zero _
  | runAsync job completion next =>
      refine hprogram _ (Weight.above_add.mpr ⟨?_, ?_⟩) ((congrArg (· + _) (post_load e _)).trans
        (add_assoc _ _ _))
      · exact Weight.above_singleton.mpr (Weight.lt_of_le bot_le 3 0)
      · exact Weight.above_singleton.mpr (Weight.lt_of_le le_rfl 0 0)
  | enter hp hfree =>
      refine ⟨{toLex (0, 3)}, toLex (0, 4), ?_, ?_⟩
      · exact Weight.above_singleton.mpr (Weight.lt_of_moves le_rfl (Nat.lt_succ_self 3))
      · have hload := submission_load e (e.entered + 1) (some ⟨who, e.entered + 1, false⟩)
        rw [hfree] at hload
        rw [add_right_comm, add_right_comm e.load]
        exact congrArg (· + _) hload
  | @fence _ _ _ _ hp ticket hheld =>
      refine ⟨{toLex (0, 2)}, toLex (0, 3), ?_, ?_⟩
      · exact Weight.above_singleton.mpr (Weight.lt_of_moves le_rfl (Nat.lt_succ_self 2))
      · have hload := submission_load (e.post (.fence ticket)) e.entered (some ⟨who, ticket, true⟩)
        have hbefore : (e.post (.fence ticket)).submission = some ⟨who, ticket, false⟩ := hheld
        rw [hbefore, post_load] at hload
        rw [add_right_comm, add_right_comm e.load]
        exact congrArg (· + _) (hload.trans (add_zero _))
  | @task _ m c after hp ticket hheld =>
      refine hprogram _ hp.above ?_
      have hload := submission_load (e.postMigration (.task ⟨ticket, m, c⟩)) e.entered none
      have hbefore : (e.postMigration (.task ⟨ticket, m, c⟩)).submission
          = some ⟨who, ticket, true⟩ := hheld
      rw [hbefore, postMigration_load, add_assoc] at hload
      rw [← add_assoc]
      exact congrArg (· + _) ((add_zero _).symm.trans hload)
  | selfWait hwho m next =>
      exact hprogram _ (Weight.above_singleton.mpr
        (Weight.lt_of_le (Ordinal.le_iSup (fun r => (next r).rank) _) 0 0)) rfl
  | isMigrating next =>
      exact hprogram _ (Weight.above_singleton.mpr
        (Weight.lt_of_le (Ordinal.le_iSup (fun b => (next b).rank) _) 0 0)) rfl
  | releaseLane hwho =>
      refine hprogram ({toLex (0, 1)} + {toLex (0, 1)} + {toLex (0, 0)}) ?_ ?_
      · simp only [Weight.above_add, Weight.above_singleton]
        exact ⟨⟨hrelease 1, hrelease 1⟩, hrelease 0⟩
      · rw [shutDown_load, add_assoc]
        rfl
  | release hwho =>
      refine hprogram ({toLex (0, 1)} + {toLex (0, 1)} + {toLex (0, 1)}) ?_ ?_
      · simp only [Weight.above_add, Weight.above_singleton]
        exact ⟨⟨hrelease 1, hrelease 1⟩, hrelease 1⟩
      · rw [shutDown_load, add_assoc]
        rfl

/-- A job that is served gives way to whatever its caller goes on with. -/
theorem serve_load (e : Engine Note) (w : Work Note) :
    ∃ lost more,
      Weight.Above (toLex (w.rank, 2)) more ∧ (e.serve w).load + lost = e.load + more := by
  have hshutdown : (toLex (0, 1) : Weight) < toLex (w.rank, 2) :=
    Weight.lt_of_moves bot_le (Nat.lt_succ_self 1)
  cases w with
  | call job caller resume =>
      obtain ⟨r, after, -, hserve⟩ := e.serve_call job caller resume
      obtain ⟨told, htold, hworkspace⟩ := withWorkspace_load e after
      obtain ⟨lost, hresume⟩ := resume_load (e.withWorkspace after) (resume r) caller
      refine ⟨lost, told + {toLex ((resume r).rank, 0)}, ?_, ?_⟩
      · refine Weight.above_add.mpr ⟨htold _ hshutdown, Weight.above_singleton.mpr ?_⟩
        exact Weight.lt_of_moves (Ordinal.le_iSup (fun r => (resume r).rank) r) Nat.two_pos
      · rw [hserve, hresume, hworkspace, add_assoc]
  | async job completion =>
      obtain ⟨told, htold, hworkspace⟩ := withWorkspace_load e _
      refine ⟨0, told, htold _ hshutdown, ?_⟩
      rw [add_zero]
      exact hworkspace

/-- A migration that runs gives way to whatever goes on after it. -/
theorem migrate_load {t : MigrationTask Note} (hlane : e.migrationLane = .migrating t) :
    ∃ lost more, Weight.Above (toLex (t.completion.rank, 2)) more ∧
      (e.migrate t).load + lost + {toLex (t.completion.rank, 2)} = e.load + more := by
  -- The lane has the migration in hand until its result is handed on.
  have hload (ws : Workspace Note) (left : ℕ) (lane : MigrationLane Note) :
      ({ e.withWorkspace ws with left, migrationLane := lane } : Engine Note).load
          + {toLex (t.completion.rank, 2)}
        = (e.withWorkspace ws).load + lane.load := by
    have hbefore : ({ e.withWorkspace ws with left } : Engine Note).migrationLane = .migrating t :=
      (withWorkspace_agrees e ws).migrationLane.trans hlane
    have hchange := migrationLane_load { e.withWorkspace ws with left } lane
    rw [hbefore] at hchange
    exact hchange
  have hshutdown : (toLex (0, 1) : Weight) < toLex (t.completion.rank, 2) :=
    Weight.lt_of_moves bot_le (Nat.lt_succ_self 1)
  obtain ⟨ticket, m, completion⟩ := t
  cases completion with
  | callback program =>
      obtain ⟨r, after, -, hmigrate⟩ := e.migrate_callback ticket m program
      obtain ⟨told, htold, hworkspace⟩ := withWorkspace_load e after
      refine ⟨0, told + {toLex ((program r).rank, 0)}, ?_, ?_⟩
      · refine Weight.above_add.mpr ⟨htold _ hshutdown, Weight.above_singleton.mpr ?_⟩
        exact Weight.lt_of_moves (Ordinal.le_iSup (fun r => (program r).rank) r) Nat.two_pos
      · rw [hmigrate, add_zero, hload, hworkspace, add_assoc]
        rfl
  | reply caller resume =>
      obtain ⟨r, after, -, hmigrate⟩ := e.migrate_reply ticket m caller resume
      obtain ⟨told, htold, hworkspace⟩ := withWorkspace_load e after
      obtain ⟨lost, hresume⟩ := resume_load
        ({ e.withWorkspace after with left := max e.left ticket, migrationLane := .idle })
        (resume r) caller
      refine ⟨lost, told + {toLex ((resume r).rank, 0)}, ?_, ?_⟩
      · refine Weight.above_add.mpr ⟨htold _ hshutdown, Weight.above_singleton.mpr ?_⟩
        exact Weight.lt_of_moves (Ordinal.le_iSup (fun r => (resume r).rank) r) Nat.two_pos
      · rw [hmigrate, hresume, add_right_comm, hload, hworkspace, add_assoc, add_assoc]
        exact congrArg (e.load + ·) (congrArg (told + ·) (zero_add _))

/-- A call takes weight away, wherever its program stands afterwards. -/
theorem Call.lighter (h : Call e who p events e' after) {last : Engine Note}
    (hlast : last.load + {toLex (p.rank, 0)} = e'.load + after.load) :
    Lighter last.load e.load := by
  obtain ⟨more, a, hmore, hload⟩ := h.load
  refine ⟨0, more, a, hmore, ?_⟩
  have hboth : last.load + {a} + {toLex (p.rank, 0)} = e.load + more + {toLex (p.rank, 0)} :=
    calc
      last.load + {a} + {toLex (p.rank, 0)} = last.load + {toLex (p.rank, 0)} + {a} :=
        add_right_comm ..
      _ = e'.load + after.load + {a} := congrArg (· + {a}) hlast
      _ = e.load + {toLex (p.rank, 0)} + more := hload
      _ = e.load + more + {toLex (p.rank, 0)} := add_right_comm ..
  rw [add_zero]
  exact add_right_cancel hboth

/-- The access lane takes weight away when it takes a message. -/
theorem take_lighter {m : AccessMessage Note} {rest : List (AccessMessage Note)}
    (hlane : e.accessLane = .idle) (hqueue : e.accessQueue = m :: rest) :
    Lighter ({ e with accessQueue := rest, accessLane := m.lane } : Engine Note).load e.load := by
  obtain ⟨a, hm, habove⟩ := m.lane_load
  refine ⟨0, m.lane.load, a, habove, ?_⟩
  simp only [Engine.load, hlane, hqueue, AccessLane.load, List.map_cons, List.sum_cons, hm]
  abel

/-- So does the migration lane. -/
theorem takeTask_lighter {m : MigrationMessage Note} {rest : List (MigrationMessage Note)}
    (hlane : e.migrationLane = .idle) (hqueue : e.migrationQueue = m :: rest) :
    Lighter ({ e with migrationQueue := rest, migrationLane := m.lane } : Engine Note).load
      e.load := by
  obtain ⟨a, hm, habove⟩ := m.lane_load
  refine ⟨0, m.lane.load, a, habove, ?_⟩
  simp only [Engine.load, hlane, hqueue, MigrationLane.load, List.map_cons, List.sum_cons, hm]
  abel

/-- Every turn takes weight away. -/
theorem Turn.lighter (h : e.Turn events e') : Lighter e'.load e.load := by
  cases h with
  | @takeWork w rest hlane hqueue => exact take_lighter (m := .work w) hlane hqueue
  | @reachFence ticket rest hlane hqueue => exact take_lighter (m := .fence ticket) hlane hqueue
  | stopAccess hlane hqueue => exact take_lighter (m := .shutdown) hlane hqueue
  | @takeTask t rest hlane hqueue => exact takeTask_lighter (m := .task t) hlane hqueue
  | stopMigration hlane hqueue => exact takeTask_lighter (m := .shutdown) hlane hqueue
  | @serve w hlane =>
      obtain ⟨lost, more, hmore, hload⟩ := serve_load { e with accessLane := .idle } w
      refine ⟨lost, more, _, hmore, ?_⟩
      have hidle := accessLane_load e .idle
      rw [hlane] at hidle
      rw [hload, add_right_comm]
      exact congrArg (· + more) (hidle.trans (add_zero _))
  | leaveFence hlane hleft =>
      refine ⟨0, 0, toLex (0, 1), Weight.above_zero _, ?_⟩
      have hidle := accessLane_load e .idle
      rw [hlane] at hidle
      rw [add_zero]
      exact hidle
  | @begin t hlane hreached =>
      refine ⟨0, {toLex (t.completion.rank, 2)}, toLex (t.completion.rank, 3), ?_, ?_⟩
      · exact Weight.above_singleton.mpr (Weight.lt_of_moves le_rfl (Nat.lt_succ_self 2))
      · have hbegun := migrationLane_load e (.migrating t)
        rw [hlane] at hbegun
        rw [add_zero]
        exact hbegun
  | migrate hlane =>
      obtain ⟨lost, more, hmore, hload⟩ := migrate_load hlane
      exact ⟨lost, more, _, hmore, hload⟩
  | complete hlane =>
      refine ⟨0, 0, toLex (0, 0), Weight.above_zero _, ?_⟩
      have hidle := migrationLane_load e .idle
      rw [hlane] at hidle
      rw [add_zero]
      exact hidle
  | @callback p events e' after hlane hcall =>
      have hchange := migrationLane_load e' (.completing after)
      rw [hcall.lanes.2.1, hlane] at hchange
      exact hcall.lighter hchange
  | @client i p events e' after hclient hcall =>
      have hchange := clients_load (hcall.clients.symm ▸ hclient) after
      rw [hcall.clients] at hchange
      exact hcall.lighter hchange
  | join i hclient hstopped =>
      refine ⟨0, {toLex (0, 0)}, toLex (0, 1), ?_, ?_⟩
      · exact Weight.above_singleton.mpr (Weight.lt_of_moves le_rfl Nat.one_pos)
      · rw [add_zero]
        exact clients_load hclient (.running .done)

/-- No engine moves for ever. -/
theorem wellFounded_step : WellFounded fun after before : Engine Note => before.Step after := by
  refine (InvImage.wf Engine.load wellFounded_lighter).mono fun after before h => ?_
  obtain ⟨events, hturn⟩ := step_iff_turn.mp h
  exact hturn.lighter

end

end Engine

end SqlStore
