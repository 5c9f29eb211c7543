/-
# Programs within programs

A closure that is handed the connection may go on working on the database, and so may the mapping
of a load; such closures are nested to any depth and end with a result, an error or a panic.  While
one of them is running the connection is in use: nobody can put another in its place or close it,
and every operation finds the one that the closure has begun with.  When the outermost closure is
over, however it has ended, the connection is free again.

* `Program`, `Program.toDb` : programs whose closures are programs;
* `Moment`, `Program.moments` : the requests and calls in the course of a program, with the closures
  that are running then;
* `Database.Within`, `Program.within_exec` : what holds in the course of a program;
* `Program.guarded` : what comes of every request and of every call.
-/
import SqlStore.Proofs.Database.Calls

namespace SqlStore

variable {α β : Type}

/-! ## Programs -/

section

variable {Column Entity : Type} {t : Table Column Entity}

/-- A load with a mapping of its rows to values of a type, with the type of its result. -/
inductive MappedLoad (t : Table Column Entity) (β : Type) : Type → Type
  | all (q : SelectQuery t) : MappedLoad t β (List β)
  | first (q : SelectQuery t) : MappedLoad t β (Option β)
  | join (q : JoinQuery t) : MappedLoad t β (List β)

namespace MappedLoad

/-- The operation that the load is with a mapping. -/
def operation (load : MappedLoad t β α) (mapping : Cursor → Db (Option β)) : Operation t α :=
  match load with
  | all q => .loadWith q mapping
  | first q => .loadOneWith q mapping
  | join q => .loadJoinWith q mapping

/-- The rows that the mapping is called with, each with the database at that time. -/
def calls (load : MappedLoad t β α) (mapping : Cursor → Db (Option β)) :
    Database → List (Cursor × Database) :=
  match load with
  | all q => Db.tableRowCalls t q.query mapping
  | first q => Db.tableRowCalls t (q.limitTo 1).query mapping
  | join q => Db.rowCalls q.query mapping

/-- The mapping has a property if it has it on every row. -/
theorem mappings_operation (holds : ∀ {β : Type}, Db β → Prop) (load : MappedLoad t β α)
    {mapping : Cursor → Db (Option β)} (h : ∀ row, holds (mapping row)) :
    (load.operation mapping).Mappings holds := by
  cases load <;> exact h

/-- A mapping is called while the connection that the load has found is held, and in use once
more. -/
theorem same_of_mem_calls {load : MappedLoad t β α} {mapping : Cursor → Db (Option β)}
    {db : Database} {call : Cursor × Database} (h : ∀ row, Db.Retains True 1 (mapping row))
    (hcall : call ∈ load.calls mapping db) :
    call.2.borrows = db.borrows + 1 ∧ db.SameConnection call.2 := by
  cases load with
  | all q | first q => exact Db.same_of_mem_tableRowCalls h hcall
  | join q => exact Db.same_of_mem_rowCalls h hcall

end MappedLoad

end

/-- A program on a database: requests and calls, and calls with closures that are programs. -/
inductive Program : Type → Type 1
  | pure {α : Type} (a : α) : Program α
  /-- An error, or a panic. -/
  | throw {α : Type} (failure : Failure) : Program α
  | bind {α β : Type} (p : Program α) (next : α → Program β) : Program β
  | tryCatch {α : Type} (p : Program α) (handler : Failure → Program α) : Program α
  /-- Statements on the connection that a closure is handed. -/
  | statements (script : Script) : Program Unit
  /-- The rows that this connection shows for a query. -/
  | answer (q : Query) : Program (List Cursor)
  | request (r : Request) : Program Unit
  /-- A call without a closure. -/
  | call {α : Type} (c : Call α) (h : c.Closures fun _ => False) : Program α
  | withConnection {α : Type} (body : Program α) : Program α
  | load {Column Entity α β : Type} {t : Table Column Entity} (load : MappedLoad t β α)
      (mapping : Cursor → Program (Option β)) : Program α

/-- A demand on the database: a request or a call. -/
inductive Demand : Type 1
  | request (r : Request)
  | call {α : Type} (c : Call α)

/-- A request or a call in the course of a program. -/
structure Moment where
  demand : Demand
  /-- The databases at the starts of the closures that are running, the innermost first. -/
  running : List Database
  /-- The database that the request or call is made on. -/
  before : Database

/-- What follows a program that has ended in one of two ways. -/
def Db.following (program : Db α) (succeeded : α → Database → List Moment)
    (failed : Failure → Database → List Moment) (db : Database) : List Moment :=
  match program.exec db with
  | (.ok a, after) => succeeded a after
  | (.error failure, after) => failed failure after

namespace Program

/-- What a program does. -/
def toDb {α : Type} : Program α → Db α
  | pure a => Pure.pure a
  | throw failure => MonadExcept.throw failure
  | bind p next => p.toDb >>= fun a => (next a).toDb
  | tryCatch p handler => MonadExcept.tryCatch p.toDb fun failure => (handler failure).toDb
  | statements script => Db.runScript Fault.asExecute script
  | answer q => Db.rows q
  | request r => r.run
  | call c _ => c.run
  | withConnection body => Db.withConnection body.toDb
  | load l mapping => (l.operation fun row => (mapping row).toDb).run

/-- The requests and calls in the course of a program, in order, if some closures are running when
it begins. -/
def moments {α : Type} : Program α → List Database → Database → List Moment
  | pure _, _, _ | throw _, _, _ | statements _, _, _ | answer _, _, _ => []
  | bind p next, running, db =>
      p.moments running db ++
        p.toDb.following (fun a => (next a).moments running) (fun _ _ => []) db
  | tryCatch p handler, running, db =>
      p.moments running db ++
        p.toDb.following (fun _ _ => []) (fun failure => (handler failure).moments running) db
  | request r, running, db => [⟨.request r, running, db⟩]
  | call c _, running, db => [⟨.call c, running, db⟩]
  | withConnection body, running, db =>
      ⟨.call (.withConnection body.toDb), running, db⟩ ::
        match db.connection with
        | none => []
        | some _ => body.moments (db.borrow :: running) db.borrow
  | load l mapping, running, db =>
      ⟨.call (.store (.query (l.operation fun row => (mapping row).toDb))), running, db⟩ ::
        (l.calls (fun row => (mapping row).toDb) db).flatMap fun c =>
          (mapping c.1).moments (c.2 :: running) c.2

/-- A program keeps the connection while it is in use, and gives back what it borrows. -/
theorem retains (p : Program α) : Db.Retains True 1 p.toDb := by
  induction p with
  | pure a => exact Db.retains_pure a
  | throw failure => exact Db.retains_throw fun _ => trivial
  | bind p next ih ihNext => exact ih.bind ihNext
  | tryCatch p handler ih ihHandler =>
      exact ih.tryCatch fun failure => (ihHandler failure).mono fun _ => .inl trivial
  | statements script => exact Db.retains_runScript Fault.asExecute_ne_notOpen script
  | answer q => exact Db.retains_rows q
  | request r => exact r.retains
  | call c h => exact Call.retains (h.mono fun _ => False.elim)
  | withConnection body ih => exact ih.withConnection
  | load l mapping ih => exact Operation.retains (l.mappings_operation (Db.Retains True 1) ih)

end Program

/-! ## In the course of a program -/

/-- The connection is in use as often as closures are running, and each of these still finds the
connection that was held at its start. -/
structure Database.Within (running : List Database) (db : Database) : Prop where
  borrows_eq : db.borrows = running.length
  same : ∀ start ∈ running, start.SameConnection db

namespace Database.Within

variable {running : List Database} {db after : Database}

theorem inUse (h : db.Within running) (hrunning : running ≠ []) : db.InUse 1 := by
  obtain ⟨start, hstart⟩ := List.exists_mem_of_ne_nil running hrunning
  refine ⟨(h.same start hstart).isSome, ?_⟩
  rw [h.borrows_eq]
  exact List.length_pos_of_mem hstart

/-- What keeps the connection leaves the closures to run on. -/
theorem of_kept {outcome : Except Failure α × Database} (h : db.Within running)
    (hkept : Db.Kept True 1 db outcome) : outcome.2.Within running where
  borrows_eq := hkept.borrows_eq.trans h.borrows_eq
  same start hstart :=
    (h.same start hstart).trans (hkept.same (h.inUse (List.ne_nil_of_mem hstart)))

/-- One closure more is running. -/
theorem cons (h : db.Within running) (hborrows : after.borrows = db.borrows + 1)
    (hsame : db.SameConnection after) : after.Within (after :: running) where
  borrows_eq := hborrows.trans (congrArg (· + 1) h.borrows_eq)
  same := List.forall_mem_cons.mpr
    ⟨Database.sameConnection_of_eq hsame.isSome rfl, fun start hstart =>
      (h.same start hstart).trans hsame⟩

end Database.Within

/-- While a closure is running a request is refused, and decided when none is; and a call is
served. -/
def Demand.Answered (running : List Database) (db : Database) : Demand → Prop
  | request r => (running ≠ [] → r.Refused db) ∧ (running = [] → r.Decided db)
  | call c => c.Served db

/-- What is true of a moment: the closures that are running find their connection, which is open,
and the request or call is answered accordingly. -/
structure Moment.IsGuarded (m : Moment) : Prop where
  within : m.before.Within m.running
  isOpen : m.running ≠ [] → (Db.isOpen.exec m.before).1 = .ok true
  answered : m.demand.Answered m.running m.before

theorem Moment.isGuarded {running : List Database} {db : Database} (h : db.Within running)
    {demand : Demand} (hanswered : demand.Answered running db) :
    Moment.IsGuarded ⟨demand, running, db⟩ where
  within := h
  isOpen hrunning := congrArg Except.ok (h.inUse hrunning).1
  answered := hanswered

/-- What is true after either end is true of what follows. -/
theorem Db.forall_mem_following {program : Db α} {succeeded : α → Database → List Moment}
    {failed : Failure → Database → List Moment} {db : Database} {P : Moment → Prop}
    (hsucceeded : ∀ a, ∀ m ∈ succeeded a (program.exec db).2, P m)
    (hfailed : ∀ failure, ∀ m ∈ failed failure (program.exec db).2, P m) :
    ∀ m ∈ program.following succeeded failed db, P m := by
  unfold following
  rcases hexec : program.exec db with ⟨failure | a, after⟩
  · rw [hexec] at hfailed
    exact hfailed failure
  · rw [hexec] at hsucceeded
    exact hsucceeded a

namespace Program

variable {running : List Database} {db : Database}

/-- A program that is run within closures leaves them to run on. -/
theorem within_exec (p : Program α) (h : db.Within running) :
    (p.toDb.exec db).2.Within running := h.of_kept (p.retains db)

/-- Whatever is requested or called in its course, within these closures or its own, is guarded. -/
theorem moments_guarded (p : Program α) (h : db.Within running) :
    ∀ m ∈ p.moments running db, m.IsGuarded := by
  -- A closure is run in the place of the program with one closure more, so that the list of them is
  -- general in the induction.
  induction p generalizing running db with
  | pure | throw | statements | answer => exact List.forall_mem_nil _
  | bind p next ih ihNext =>
      refine List.forall_mem_append.mpr ⟨ih h, Db.forall_mem_following ?_ ?_⟩
      · exact fun a => ihNext a (p.within_exec h)
      · exact fun _ => List.forall_mem_nil _
  | tryCatch p handler ih ihHandler =>
      refine List.forall_mem_append.mpr ⟨ih h, Db.forall_mem_following ?_ ?_⟩
      · exact fun _ => List.forall_mem_nil _
      · exact fun failure => ihHandler failure (p.within_exec h)
  | request r =>
      refine List.forall_mem_singleton.mpr (Moment.isGuarded h ⟨fun hrunning => ?_, ?_⟩)
      · exact r.refused_of_inUse (Nat.one_le_iff_ne_zero.mp (h.inUse hrunning).2)
      · rintro rfl
        exact r.decided_of_free h.borrows_eq
  | call c hplain =>
      refine List.forall_mem_singleton.mpr (Moment.isGuarded h ?_)
      exact c.served (hplain.mono fun _ => False.elim) db
  | withConnection body ih =>
      have hclosures : (Call.withConnection body.toDb).Closures (Db.Retains True 1) := body.retains
      refine List.forall_mem_cons.mpr ⟨Moment.isGuarded h (Call.served hclosures db), ?_⟩
      split
      · exact List.forall_mem_nil _
      · rename_i hopen
        have hopen : db.connection.isSome = true := Option.isSome_of_eq_some hopen
        exact ih (h.cons rfl (Database.sameConnection_of_eq hopen rfl))
  | load l mapping ih =>
      have hmapping (row : Cursor) := (mapping row).retains
      have hclosures : (Call.store (.query (l.operation fun row => (mapping row).toDb))).Closures
          (Db.Retains True 1) := l.mappings_operation (Db.Retains True 1) hmapping
      refine List.forall_mem_cons.mpr ⟨Moment.isGuarded h (Call.served hclosures db), ?_⟩
      intro m hm
      obtain ⟨c, hc, hm⟩ := List.mem_flatMap.mp hm
      obtain ⟨hborrows, hsame⟩ := MappedLoad.same_of_mem_calls hmapping hc
      exact ih c.1 (h.cons hborrows hsame) m hm

/-- A program that begins while no closure is running leaves the connection free, however it ends.
In its course, to any depth of closures: while one is running it finds the connection that was held
at its start, which is open, and requests for another connection or none are refused; while none is
running they are granted or leave the database as it is.  Every other call keeps the connection
that is held and, if it needs one, fails for want of it just if none is held. -/
theorem guarded (p : Program α) (hfree : db.borrows = 0) :
    (p.toDb.exec db).2.borrows = 0 ∧ ∀ m ∈ p.moments [] db, m.IsGuarded := by
  have h : db.Within [] := ⟨hfree, List.forall_mem_nil _⟩
  exact ⟨(p.within_exec h).borrows_eq, p.moments_guarded h⟩

/-- Opens a database in memory, closes it within a closure that panics if it cannot, and closes it
again. -/
def closingTwice : Program Unit :=
  let inner := tryCatch (request .close) fun _ => throw (.panic none)
  bind (request .openInMemory) fun _ =>
    bind (tryCatch (withConnection inner) fun _ => pure ()) fun _ => request .close

/-- The first time the connection is in use, and the second time it is closed. -/
theorem guarded_closingTwice :
    let within : Moment := ⟨.request .close, [Database.inMemory.borrow], Database.inMemory.borrow⟩
    let after : Moment := ⟨.request .close, [], Database.inMemory⟩
    Database.empty.borrows = 0 ∧
      within ∈ closingTwice.moments [] .empty ∧ after ∈ closingTwice.moments [] .empty ∧
      (Db.close.exec within.before).1 = .error (.error (.close "connection is in use")) ∧
      (Db.close.exec after.before).1 = .ok () ∧
      (closingTwice.toDb.exec .empty).2.borrows = 0 := by
  intro within after
  have hwithin : within ∈ closingTwice.moments [] .empty := .tail _ (.tail _ (.head _))
  have hafter : after ∈ closingTwice.moments [] .empty := .tail _ (.tail _ (.tail _ (.head _)))
  have hfree : Database.empty.borrows = 0 := rfl
  obtain ⟨hlast, hguarded⟩ := guarded closingTwice hfree
  have hrefused := (hguarded within hwithin).answered.1 (List.cons_ne_nil _ _)
  have hdecided := (hguarded after hafter).answered.2 rfl
  exact ⟨hfree, hwithin, hafter, hrefused.result_eq, (hdecided.granted rfl).1, hlast⟩

end Program

end SqlStore
