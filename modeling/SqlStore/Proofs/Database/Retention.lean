/-
# Keeping the connection

A program may run statements on the connection that is held, change its journal, and use it again
while it is in use.  In all of this the connection stays the same one, and whatever is borrowed is
given back, however the program ends.  Every operation is such a program, but for those that ask
for another connection or for none; and it ends for want of a connection only if none is held.

* `Connection.Evolves` : what becomes of a connection;
* `Database.SameConnection`, `Database.InUse` : the connection that is held, and its use;
* `Db.Retains` : programs that keep the connection and give back what they borrow;
* `Db.Retains.withConnection` : while a body runs it is enough that it does so on a connection in
  use;
* `Operation.retains`, `StoreOperation.retains` : the operations.
-/
import Mathlib.Logic.Relation
import SqlStore.Proofs.Database.Status

namespace SqlStore

variable {α β : Type}

/-! ## What becomes of a connection -/

namespace Connection

/-- One statement, or one change of the journal mode. -/
def Becomes (c next : Connection) : Prop :=
  (∃ s count, c.run s = .ok (next, count)) ∨ ∃ mode, c.setJournal mode = .ok next

/-- The same connection after any number of statements and changes of the journal mode. -/
def Evolves : Connection → Connection → Prop := Relation.ReflTransGen Becomes

/-- A script is run on the same connection, whether it succeeds or not. -/
theorem evolves_runScript (script : Script) (c : Connection) :
    c.Evolves (c.runScript script).1 := by
  induction script generalizing c with
  | nil => exact .refl
  | cons s script ih =>
      unfold runScript
      cases hrun : c.run s with
      | error fault => exact .refl
      | ok result => exact .head (.inl ⟨s, result.2, hrun⟩) (ih result.1)

end Connection

/-! ## The connection of a database -/

namespace Database

/-- The connection that was held at the start is still held. -/
def SameConnection (start now : Database) : Prop :=
  ∃ c next, start.connection = some c ∧ now.connection = some next ∧ c.Evolves next

/-- A connection is held, and at least so many bodies are running that use it. -/
def InUse (least : Nat) (db : Database) : Prop :=
  db.connection.isSome = true ∧ least ≤ db.borrows

variable {start mid now : Database} {least : Nat}

/-- A connection that is held is in use, if that may be by nobody. -/
theorem inUse_zero {db : Database} (hopen : db.connection.isSome = true) : db.InUse 0 :=
  ⟨hopen, db.borrows.zero_le⟩

/-- One that a body is run with is in use. -/
theorem inUse_borrowed (files : List (String × StoredFile)) (c : Connection) (borrows : Nat) :
    InUse 1 ⟨files, some c, borrows + 1⟩ := ⟨rfl, Nat.le_add_left 1 borrows⟩

theorem sameConnection_of_eq (hopen : start.connection.isSome = true)
    (h : now.connection = start.connection) : start.SameConnection now := by
  obtain ⟨c, hc⟩ := Option.isSome_iff_exists.mp hopen
  exact ⟨c, c, hc, h.trans hc, .refl⟩

theorem SameConnection.trans (h : start.SameConnection mid) (h' : mid.SameConnection now) :
    start.SameConnection now := by
  obtain ⟨c, d, hc, hd, hcd⟩ := h
  obtain ⟨d', e, hd', he, hde⟩ := h'
  cases hd.symm.trans hd'
  exact ⟨c, e, hc, he, hcd.trans hde⟩

theorem SameConnection.isSome (h : start.SameConnection now) : now.connection.isSome = true := by
  obtain ⟨c, next, -, hnext, -⟩ := h
  rw [hnext]
  rfl

/-- A connection stays in use while it is kept and nothing is given back. -/
theorem InUse.of_sameConnection (h : start.InUse least) (hsame : start.SameConnection now)
    (hborrows : now.borrows = start.borrows) : now.InUse least :=
  ⟨hsame.isSome, hborrows ▸ h.2⟩

end Database

/-- The error of a query is none of a connection that is missing. -/
theorem StoreError.ofQuery_ne_notOpen (e : QueryError) : ofQuery e ≠ .notOpen := by
  unfold ofQuery
  split <;> nofun

/-- Nor is a fault. -/
theorem Fault.asStatement_ne_notOpen (fault : Fault) : fault.asStatement ≠ .notOpen := by
  unfold asStatement
  split <;> nofun

theorem Fault.asExecute_ne_notOpen (fault : Fault) : fault.asExecute ≠ .notOpen := by
  rintro ⟨⟩

theorem Fault.asTransaction_ne_notOpen (fault : Fault) : fault.asTransaction ≠ .notOpen := by
  rintro ⟨⟩

/-! ## Programs that keep it -/

namespace Db

/-- The program ends for want of a connection. -/
def Misses (program : Db α) (db : Database) : Prop :=
  (program.exec db).1 = .error (.error .notOpen)

/-- What comes of a program: whatever it has borrowed is given back; and if the connection was in
use so often, it is still held, and not missed unless that may be. -/
structure Kept (mayMiss : Prop) (least : Nat) (db : Database)
    (outcome : Except Failure α × Database) : Prop where
  borrows_eq : outcome.2.borrows = db.borrows
  same : db.InUse least → db.SameConnection outcome.2
  found : db.InUse least → outcome.1 = .error (.error .notOpen) → mayMiss

/-- The program keeps a connection that is in use so often, and gives back what it borrows. -/
def Retains (mayMiss : Prop) (least : Nat) (program : Db α) : Prop :=
  ∀ db, Kept mayMiss least db (program.exec db)

section

variable {mayMiss : Prop} {least : Nat} {program : Db α} {next : α → Db β}

/-- Where nothing is changed, it only matters how the program ends. -/
theorem kept_of_eq {db after : Database} (h : after = db) {result : Except Failure α}
    (hfound : result = .error (.error .notOpen) → mayMiss) :
    Kept mayMiss least db (result, after) where
  borrows_eq := congrArg Database.borrows h
  same hin := Database.sameConnection_of_eq hin.1 (congrArg Database.connection h)
  found _ := hfound

/-- Where no connection is held, it only matters that nothing is borrowed. -/
theorem kept_of_none {files : List (String × StoredFile)} {borrows : Nat}
    (result : Except Failure α) :
    Kept mayMiss least ⟨files, none, borrows⟩ (result, ⟨files, none, borrows⟩) where
  borrows_eq := rfl
  same hin := nomatch hin.1
  found hin := nomatch hin.1

/-- A failure is passed on as it is. -/
theorem Kept.error {db after : Database} {failure : Failure}
    (h : Kept mayMiss least db ((.error failure : Except Failure α), after)) :
    Kept mayMiss least db ((.error failure : Except Failure β), after) where
  borrows_eq := h.borrows_eq
  same := h.same
  found hin hmissed := h.found hin (by cases hmissed; rfl)

/-- What comes of a second program comes of both. -/
theorem Kept.trans {db mid : Database} {result : Except Failure α}
    {outcome : Except Failure β × Database} (h : Kept mayMiss least db (result, mid))
    (hnext : Kept mayMiss least mid outcome) : Kept mayMiss least db outcome where
  borrows_eq := hnext.borrows_eq.trans h.borrows_eq
  same hin := (h.same hin).trans (hnext.same (hin.of_sameConnection (h.same hin) h.borrows_eq))
  found hin := hnext.found (hin.of_sameConnection (h.same hin) h.borrows_eq)

/-- A program that leaves the database alone. -/
theorem Retains.of_eq (h : ∀ db, (program.exec db).2 = db)
    (hfound : ∀ db, program.Misses db → mayMiss) : Retains mayMiss least program :=
  fun db => kept_of_eq (h db) (hfound db)

/-- It may miss the connection in more cases. -/
theorem Retains.mono {mayMiss' : Prop} (h : Retains mayMiss least program)
    (himp : mayMiss → mayMiss') : Retains mayMiss' least program :=
  fun db => ⟨(h db).borrows_eq, (h db).same, fun hin hmissed => himp ((h db).found hin hmissed)⟩

theorem retains_pure (a : α) : Retains mayMiss least (pure a) := .of_eq (fun _ => rfl) nofun

theorem retains_throw {failure : Failure} (h : failure = .error .notOpen → mayMiss) :
    Retains mayMiss least (throw failure : Db α) :=
  .of_eq (fun _ => rfl) fun _ hmissed => h (Except.error.inj hmissed)

theorem Retains.bind (h : Retains mayMiss least program)
    (hnext : ∀ a, Retains mayMiss least (next a)) : Retains mayMiss least (program >>= next) := by
  intro db
  have hfirst := h db
  rw [exec_bind]
  rcases hexec : program.exec db with ⟨failure | a, mid⟩
  · rw [hexec] at hfirst
    exact hfirst.error
  · rw [hexec] at hfirst
    exact hfirst.trans (hnext a mid)

theorem Retains.discard (h : Retains mayMiss least program) :
    Retains mayMiss least (discard program) := by
  intro db
  have hfirst := h db
  rw [exec_discard]
  rcases hexec : program.exec db with ⟨failure | a, mid⟩
  · rw [hexec] at hfirst
    exact hfirst.error
  · rw [hexec] at hfirst
    exact hfirst.trans (kept_of_eq rfl nofun)

/-- A handler may miss what the program that it stands for has missed. -/
theorem Retains.tryCatch (h : Retains mayMiss least program) {handler : Failure → Db α}
    (hhandler : ∀ failure, Retains (mayMiss ∨ failure = .error .notOpen) least (handler failure)) :
    Retains mayMiss least (tryCatch program handler) := by
  intro db
  have hfirst := h db
  rw [exec_tryCatch]
  rcases hexec : program.exec db with ⟨failure | a, mid⟩
  · rw [hexec] at hfirst
    have hsecond := hhandler failure mid
    refine ⟨hsecond.borrows_eq.trans hfirst.borrows_eq, fun hin => ?_, fun hin hmissed => ?_⟩
    · have hmid := hin.of_sameConnection (hfirst.same hin) hfirst.borrows_eq
      exact (hfirst.same hin).trans (hsecond.same hmid)
    · have hmid := hin.of_sameConnection (hfirst.same hin) hfirst.borrows_eq
      -- The handler has been called with what the program has failed with.
      rcases hsecond.found hmid hmissed with hmay | rfl
      · exact hmay
      · exact hfirst.found hin rfl
  · rw [hexec] at hfirst
    exact hfirst

/-- A body is run while the connection is in use, so that it is enough if the body keeps it then. -/
theorem Retains.withConnection (h : Retains mayMiss 1 program) :
    Retains mayMiss least (withConnection program) := by
  rintro ⟨files, _ | c, borrows⟩
  · exact kept_of_none _
  · have hbody := h ⟨files, some c, borrows + 1⟩
    have hin := Database.inUse_borrowed files c borrows
    rw [exec_withConnection]
    exact ⟨congrArg (· - 1) hbody.borrows_eq, fun _ => hbody.same hin, fun _ => hbody.found hin⟩

/-- A program for each element of a list. -/
theorem Retains.mapM {f : α → Db β} (h : ∀ a, Retains mayMiss least (f a)) (as : List α) :
    Retains mayMiss least (as.mapM f) := by
  induction as with
  | nil => exact retains_pure _
  | cons a as ih =>
      rw [List.mapM_cons]
      exact (h a).bind fun _ => ih.bind fun _ => retains_pure _

/-- A program for each element of a list, without results. -/
theorem Retains.forM {f : α → Db Unit} (h : ∀ a, Retains mayMiss least (f a)) (as : List α) :
    Retains mayMiss least (as.forM f) := by
  induction as with
  | nil => exact retains_pure _
  | cons a as ih => exact (h a).bind fun _ => ih

theorem retains_orInvalid (a : Except QueryError α) : Retains mayMiss least (orInvalid a) := by
  cases a with
  | ok a => exact retains_pure a
  | error e =>
      exact retains_throw fun h => absurd (Failure.error.inj h) (StoreError.ofQuery_ne_notOpen e)

/-- A question to the connection. -/
theorem retains_askConnection {ask : Connection → Except StoreError α}
    (h : ∀ c, ask c ≠ .error .notOpen) : Retains mayMiss least (askConnection ask) := by
  rintro ⟨files, _ | c, borrows⟩
  · exact kept_of_none _
  · rw [exec_askConnection]
    refine kept_of_eq rfl fun hmissed => ?_
    cases hask : ask c with
    | ok a =>
        rw [hask] at hmissed
        cases hmissed
    | error e =>
        rw [hask] at hmissed
        cases hmissed
        exact absurd hask (h c)

/-- A question that is always answered. -/
theorem retains_ask (answer : Connection → α) :
    Retains mayMiss least (askConnection fun c => .ok (answer c)) :=
  retains_askConnection fun _ => nofun

/-- A change of the connection. -/
theorem retains_changeConnection {change : Connection → Except StoreError (Connection × α)}
    (h : ∀ c : Connection, Yields (fun result => c.Evolves result.1) (change c))
    (hfound : ∀ c, change c ≠ .error .notOpen) :
    Retains mayMiss least (changeConnection change) := by
  intro db
  have hask : Kept mayMiss least db ((askConnection change).exec db) :=
    retains_askConnection hfound db
  unfold changeConnection
  obtain ⟨files, connection, borrows⟩ := db
  rw [exec_bind]
  cases connection with
  | none => exact hask.error
  | some c =>
      rw [exec_askConnection] at hask ⊢
      cases hchange : change c with
      | error e =>
          rw [hchange] at hask
          exact hask.error
      | ok result => exact ⟨rfl, fun _ => ⟨c, result.1, rfl, rfl, h c result hchange⟩, nofun⟩

/-! ## Statements and rows -/

section

variable {blame : Fault → StoreError} (hblame : ∀ fault, blame fault ≠ .notOpen)
include hblame

/-- One statement. -/
theorem retains_runStatement (s : Statement) : Retains mayMiss least (runStatement blame s) := by
  apply retains_changeConnection
  · intro c result hresult
    exact .single (.inl ⟨s, result.2, mapError_eq_ok_iff.mp hresult⟩)
  · intro c hmissed
    obtain ⟨fault, -, hfault⟩ := mapError_eq_error_iff.mp hmissed
    exact hblame fault hfault

/-- A script. -/
theorem retains_runScript (script : Script) : Retains mayMiss least (runScript blame script) := by
  unfold runScript
  refine .bind (retains_changeConnection (fun c => .ok (c.evolves_runScript script)) nofun) ?_
  rintro (_ | fault)
  · exact retains_pure ()
  · exact retains_throw fun h => absurd (Failure.error.inj h) (hblame fault)

end

/-- The rows of a query. -/
theorem retains_rows (q : Query) : Retains mayMiss least (rows q) := by
  refine .bind (retains_askConnection fun c hmissed => ?_) fun _ => retains_pure _
  obtain ⟨fault, -, hfault⟩ := mapError_eq_error_iff.mp hmissed
  exact fault.asStatement_ne_notOpen hfault

/-- What a body makes of them, which runs while the connection is in use. -/
theorem retains_forEachRow {body : Cursor → Db α} (h : ∀ row, Retains mayMiss 1 (body row))
    (q : Query) : Retains mayMiss least (forEachRow q body) :=
  (retains_orInvalid _).discard.bind fun _ => .withConnection ((retains_rows q).bind (.mapM h))

theorem retains_loadMapped {mapping : Cursor → Db (Option α)}
    (h : ∀ row, Retains mayMiss 1 (mapping row)) (q : Query) :
    Retains mayMiss least (loadMapped mapping q) :=
  (retains_forEachRow h q).bind fun _ => retains_pure _

/-- A transaction.  If its body or the commit fails, it is rolled back and fails likewise. -/
theorem retains_transaction {body : Db Unit} (h : Retains mayMiss least body) :
    Retains mayMiss least (transaction body) := by
  have hstatement (mayMiss : Prop) (s : Statement) :
      Retains mayMiss least (discard (runStatement Fault.asTransaction s)) :=
    (retains_runStatement Fault.asTransaction_ne_notOpen s).discard
  unfold transaction
  extract_lets rollback
  refine (hstatement _ .begin).bind fun _ => .tryCatch (h.bind fun _ => hstatement _ .commit) ?_
  intro failure
  refine .bind ?_ fun _ => retains_throw fun h => .inr h
  refine .bind (retains_ask _) fun inTransaction => ?_
  cases inTransaction with
  | true => exact hstatement _ .rollback
  | false => exact retains_pure ()

end

end Db

/-! ## Operations -/

section

variable {Column Entity : Type} {t : Table Column Entity}

/-- What holds of the mapping of an operation, if it has one. -/
def Operation.Mappings (holds : ∀ {β : Type}, Db β → Prop) : Operation t α → Prop
  | loadWith _ mapping | loadOneWith _ mapping | loadJoinWith _ mapping =>
      ∀ row, holds (mapping row)
  | _ => True

/-- What holds of the mapping of an operation, if it has one. -/
def StoreOperation.Mappings (holds : ∀ {β : Type}, Db β → Prop) : StoreOperation t α → Prop
  | query op => op.Mappings holds
  | _ => True

variable {mayMiss : Prop} {least : Nat}

theorem Db.retains_createTable (t : Table Column Entity) :
    Retains mayMiss least (createTable t) :=
  .withConnection (retains_runStatement Fault.asStatement_ne_notOpen _).discard

theorem Db.retains_load (q : SelectQuery t) : Retains mayMiss least (load q) :=
  (retains_createTable t).bind fun _ => retains_forEachRow (fun _ => retains_orInvalid _) _

theorem Db.retains_loadWith (q : SelectQuery t) {mapping : Cursor → Db (Option α)}
    (h : ∀ row, Retains mayMiss 1 (mapping row)) : Retains mayMiss least (loadWith q mapping) :=
  (retains_createTable t).bind fun _ => retains_loadMapped h _

theorem Db.retains_insert (entities : List Entity) (replace : Bool) :
    Retains mayMiss least (insert t entities replace) := by
  refine (retains_createTable t).bind fun _ => .withConnection (retains_transaction ?_)
  exact .forM (fun e => (retains_runStatement Fault.asTransaction_ne_notOpen _).discard) entities

/-- An operation that takes a query, if its mapping does so while the connection is in use. -/
theorem Operation.retains {op : Operation t α} (h : op.Mappings (Db.Retains mayMiss 1)) :
    Db.Retains mayMiss least op.run := by
  cases op with
  | load q => exact Db.retains_load q
  | loadLenient q => exact Db.retains_loadWith q fun _ => Db.retains_pure _
  | loadWith q mapping => exact Db.retains_loadWith q h
  | loadOne q => exact (Db.retains_load _).bind fun _ => Db.retains_pure _
  | loadOneWith q mapping => exact (Db.retains_loadWith _ h).bind fun _ => Db.retains_pure _
  | loadRows reader q => exact Db.retains_forEachRow (fun _ => Db.retains_orInvalid _) q
  | loadValue α q =>
      refine (Db.retains_orInvalid _).discard.bind fun _ => .withConnection ?_
      exact (Db.retains_rows q).bind fun _ => Db.retains_pure _
  | loadJoinWith q mapping => exact Db.retains_loadMapped h _
  | update q =>
      refine (Db.retains_orInvalid _).discard.bind fun _ => (Db.retains_createTable t).bind ?_
      exact fun _ => .withConnection (Db.retains_runStatement Fault.asStatement_ne_notOpen _)
  | delete q =>
      refine (Db.retains_orInvalid _).discard.bind fun _ => ?_
      exact .withConnection (Db.retains_runStatement Fault.asStatement_ne_notOpen _)

/-- A script that has to compile as a whole. -/
theorem Db.retains_execute (script : Script) : Retains mayMiss least (execute script) := by
  refine (retains_orInvalid _).discard.bind fun _ => .withConnection ?_
  exact retains_runScript Fault.asExecute_ne_notOpen script

/-- Every operation. -/
theorem StoreOperation.retains {op : StoreOperation t α} (h : op.Mappings (Db.Retains mayMiss 1)) :
    Db.Retains mayMiss least op.run := by
  cases op with
  | query op => exact op.retains h
  | createTable => exact Db.retains_createTable t
  | dropTable =>
      exact .withConnection (Db.retains_runStatement Fault.asStatement_ne_notOpen _).discard
  | insert entities replace => exact Db.retains_insert entities replace
  | insertOne entity replace => exact Db.retains_insert [entity] replace
  | userVersion => exact .withConnection (Db.retains_ask _)
  | setUserVersion version => exact Db.retains_execute _
  | isOpen => exact .of_eq (fun _ => rfl) nofun
  | journalMode => exact .withConnection (Db.retains_ask _)
  | setJournalMode mode =>
      refine .withConnection (Db.retains_changeConnection (fun c result hresult => ?_) ?_)
      · obtain ⟨next, hjournal, rfl⟩ := map_eq_ok_iff.mp (mapError_eq_ok_iff.mp hresult)
        exact .single (.inr ⟨mode, hjournal⟩)
      · intro c hmissed
        obtain ⟨fault, -, hfault⟩ := mapError_eq_error_iff.mp hmissed
        exact fault.asExecute_ne_notOpen hfault
  | executeTransaction script =>
      refine (Db.retains_orInvalid _).discard.bind fun _ => .withConnection ?_
      exact Db.retains_transaction (Db.retains_runScript Fault.asTransaction_ne_notOpen script)

end

end SqlStore
