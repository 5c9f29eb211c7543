/-
# Requests for a connection and calls that use it

Some operations ask for another connection or for none; they are refused while the connection is in
use, and decided when it is free.  All others work on the connection that is held.  They keep it,
if the closures that they run do so, and they end for want of a connection only if none is held or
such a closure ends so.

* `Request`, `Request.refused_of_inUse`, `Request.decided_of_free` : requests for a connection;
* `Db.rowCalls`, `Db.tableRowCalls` : the rows that the mapping of a load is called with;
* `Call`, `Call.served` : every other operation, and what comes of it.
-/
import SqlStore.Proofs.Database.Loading
import SqlStore.Proofs.Database.Retention

namespace SqlStore

variable {α β : Type}

/-! ## Requests -/

/-- What asks for another connection or for none. -/
inductive Request
  | openFile (name : String)
  | openReadOnly (name : String)
  | openInMemory
  | close
deriving DecidableEq

namespace Request

/-- What the request does. -/
def run : Request → Db Unit
  | openFile name => Db.openFile name
  | openReadOnly name => Db.openReadOnly name
  | openInMemory => Db.openInMemory
  | close => Db.close

/-- Why the request fails even if the connection is free: the file cannot be opened, or there is
nothing to close. -/
def obstacle? (db : Database) : Request → Option StoreError
  | openFile name =>
      if isFileName name then none else some (.open (name ++ ": unable to open database file"))
  | openReadOnly name =>
      if (db.file? name).isSome then none
      else some (.open (name ++ ": unable to open database file"))
  | openInMemory => none
  | close =>
      if db.borrows = 0 ∧ db.connection.isNone then some (.close "no open connection") else none

/-- What the request is told while the connection is in use. -/
def inUse : Request → StoreError
  | close => .close "connection is in use"
  | _ => .open "connection is in use"

/-- Where the connection is that the request asks for, and whether it is for reading only. -/
def target : Request → Option (Location × Bool)
  | openFile name => some (.file name, false)
  | openReadOnly name => some (.file name, true)
  | openInMemory => some (.memory, false)
  | close => none

/-- The request fails, for its obstacle if it has one, and leaves the connection as it is. -/
structure Refused (r : Request) (db : Database) : Prop where
  result_eq : (r.run.exec db).1 = .error (.error ((r.obstacle? db).getD r.inUse))
  connection_eq : (r.run.exec db).2.connection = db.connection

/-- The request is granted unless there is an obstacle, which leaves the database as it is. -/
structure Decided (r : Request) (db : Database) : Prop where
  exec_of_obstacle : ∀ e, r.obstacle? db = some e → r.run.exec db = (.error (.error e), db)
  granted : r.obstacle? db = none → (r.run.exec db).1 = .ok () ∧
    (r.run.exec db).2.connection.map (fun c => (c.location, c.readOnly)) = r.target

end Request

namespace Database

@[simp] theorem borrows_release (db : Database) : db.release.borrows = db.borrows := by
  unfold release
  split
  · rfl
  · split <;> rfl

/-- Nothing is held after a release. -/
@[simp] theorem connection_release (db : Database) : db.release.connection = none := by
  unfold release
  split
  · assumption
  · split <;> rfl

/-- The database with a file that is made if it is missing. -/
def withNewFile (db : Database) (name : String) : Database :=
  if (db.file? name).isNone then db.withFile name ⟨.empty, false⟩ else db

@[simp] theorem borrows_withNewFile (db : Database) (name : String) :
    (db.withNewFile name).borrows = db.borrows := by
  unfold withNewFile
  split <;> rfl

@[simp] theorem connection_withNewFile (db : Database) (name : String) :
    (db.withNewFile name).connection = db.connection := by
  unfold withNewFile
  split <;> rfl

end Database

namespace Db

/-- A new connection takes the place of one that is not in use. -/
theorem exec_install (connect : Database → Connection) (db : Database) :
    (install connect).exec db = if db.borrows = 0 then
        (.ok (), { db.release with connection := some (connect db.release) })
      else (.error (.error (.open "connection is in use")), db) := by
  show (if db.borrows ≠ 0 then _ else _ : Db Unit).exec db = _
  by_cases hfree : db.borrows = 0
  · rw [if_neg (not_not_intro hfree), if_pos hfree]
    rfl
  · rw [if_pos hfree, if_neg hfree]
    rfl

theorem exec_openFile (name : String) (db : Database) :
    (openFile name).exec db = if isFileName name then
        (install (·.attach name false)).exec (db.withNewFile name)
      else (.error (.error (.open (name ++ ": unable to open database file"))), db) := by
  unfold openFile Database.withNewFile
  cases isFileName name with
  | false => rfl
  | true =>
      show (if (db.file? name).isNone then _ else _ : Db Unit).exec db = _
      cases (db.file? name).isNone <;> rfl

theorem exec_openReadOnly (name : String) (db : Database) :
    (openReadOnly name).exec db = if (db.file? name).isSome then
        (install (·.attach name true)).exec db
      else (.error (.error (.open (name ++ ": unable to open database file"))), db) := by
  show (if (db.file? name).isNone then _ else _ : Db Unit).exec db = _
  cases db.file? name <;> rfl

theorem exec_close (db : Database) :
    close.exec db = if db.borrows = 0 then
        if db.connection.isSome then (.ok (), db.release)
        else (.error (.error (.close "no open connection")), db)
      else (.error (.error (.close "connection is in use")), db) := by
  show (if db.borrows ≠ 0 then _ else _ : Db Unit).exec db = _
  by_cases hfree : db.borrows = 0
  · rw [if_neg (not_not_intro hfree), if_pos hfree]
    show (if db.connection.isNone then _ else _ : Db Unit).exec db = _
    cases db.connection <;> rfl
  · rw [if_pos hfree, if_neg hfree]
    rfl

end Db

namespace Request

variable {db : Database}

/-- What the request does to the files before it looks at the connection: a missing file is made. -/
def prepared (db : Database) : Request → Database
  | openFile name => db.withNewFile name
  | _ => db

/-- The database after the request has been granted. -/
def granted (db : Database) (r : Request) : Database :=
  let free := (r.prepared db).release
  match r with
  | openFile name => { free with connection := some (free.attach name false) }
  | openReadOnly name => { free with connection := some (free.attach name true) }
  | openInMemory => { free with connection := some .inMemory }
  | close => free

/-- A request without an obstacle is granted if the connection is free. -/
theorem exec_run (r : Request) (db : Database) :
    r.run.exec db = match r.obstacle? db with
      | some e => (.error (.error e), db)
      | none => if db.borrows = 0 then (.ok (), r.granted db)
          else (.error (.error r.inUse), r.prepared db) := by
  cases r with
  | openFile name =>
      rw [run, Db.exec_openFile, Db.exec_install, db.borrows_withNewFile, obstacle?]
      cases isFileName name <;> rfl
  | openReadOnly name =>
      rw [run, Db.exec_openReadOnly, Db.exec_install, obstacle?]
      cases (db.file? name).isSome <;> rfl
  | openInMemory => exact Db.exec_install (fun _ => .inMemory) db
  | close =>
      rw [run, Db.exec_close, obstacle?]
      by_cases hfree : db.borrows = 0
      · cases hconnection : db.connection with
        | none => simp [hfree]
        | some c => simp [hfree, granted, prepared]
      · simp [hfree, inUse, prepared]

theorem borrows_prepared (r : Request) (db : Database) : (r.prepared db).borrows = db.borrows := by
  cases r with
  | openFile name => exact db.borrows_withNewFile name
  | openReadOnly | openInMemory | close => rfl

theorem borrows_granted (r : Request) (db : Database) : (r.granted db).borrows = db.borrows := by
  have hfree : (r.prepared db).release.borrows = db.borrows :=
    (r.prepared db).borrows_release.trans (r.borrows_prepared db)
  cases r <;> exact hfree

/-- The connection is the one that was asked for. -/
theorem connection_granted (r : Request) (db : Database) :
    (r.granted db).connection.map (fun c => (c.location, c.readOnly)) = r.target := by
  cases r with
  | openFile | openReadOnly | openInMemory => rfl
  | close => exact congrArg (Option.map _) (Database.connection_release _)

/-- No request changes how often the connection is in use. -/
theorem borrows_exec (r : Request) (db : Database) : (r.run.exec db).2.borrows = db.borrows := by
  rw [r.exec_run]
  cases r.obstacle? db with
  | some e => rfl
  | none =>
      dsimp only
      split
      · exact r.borrows_granted db
      · exact r.borrows_prepared db

/-- While the connection is in use every request is refused. -/
theorem refused_of_inUse (r : Request) (hused : db.borrows ≠ 0) : r.Refused db := by
  have hprepared : (r.prepared db).connection = db.connection := by
    cases r with
    | openFile name => exact db.connection_withNewFile name
    | openReadOnly | openInMemory | close => rfl
  have hexec := r.exec_run db
  rw [if_neg hused] at hexec
  cases hobstacle : r.obstacle? db with
  | some e =>
      rw [hobstacle] at hexec
      exact ⟨by rw [hexec, hobstacle]; rfl, by rw [hexec]⟩
  | none =>
      rw [hobstacle] at hexec
      exact ⟨by rw [hexec, hobstacle]; rfl, by rw [hexec]; exact hprepared⟩

/-- A request for a connection that is free is granted unless there is an obstacle. -/
theorem decided_of_free (r : Request) (hfree : db.borrows = 0) : r.Decided db := by
  have hexec := r.exec_run db
  rw [if_pos hfree] at hexec
  refine ⟨fun e he => ?_, fun hnone => ?_⟩
  · rw [he] at hexec
    exact hexec
  · rw [hnone] at hexec
    rw [hexec]
    exact ⟨rfl, r.connection_granted db⟩

/-- So a connection that is in use is kept. -/
theorem retains (r : Request) : Db.Retains True 1 r.run := by
  intro db
  refine ⟨r.borrows_exec db, fun hin => ?_, fun _ _ => trivial⟩
  have hused : db.borrows ≠ 0 := Nat.one_le_iff_ne_zero.mp hin.2
  exact Database.sameConnection_of_eq hin.1 (r.refused_of_inUse hused).connection_eq

end Request

/-! ## The rows that a mapping is called with -/

namespace Db

/-- The elements that a body is called with one after another, each with the database at that
time.  A call that fails is the last one. -/
def handed (body : β → Db α) : List β → Database → List (β × Database)
  | [], _ => []
  | b :: bs, db => (b, db) :: match (body b).exec db with
      | (.ok _, after) => handed body bs after
      | (.error _, _) => []

/-- The rows of a query that a body is called with, each with the database at that time. -/
def rowCalls (q : Query) (body : Cursor → Db α) (db : Database) : List (Cursor × Database) :=
  match db.connection with
  | none => []
  | some c =>
      match c.rows q with
      | .ok rows => handed body rows db.borrow
      | .error _ => []

/-- The same after a table has been created. -/
def tableRowCalls {Column Entity : Type} (t : Table Column Entity) (q : Query)
    (body : Cursor → Db α) (db : Database) : List (Cursor × Database) :=
  match (createTable t).exec db with
  | (.ok _, mid) => rowCalls q body mid
  | (.error _, _) => []

/-- Bodies that keep a connection in use are all called while it is held and in use. -/
theorem same_of_mem_handed {body : β → Db α} (h : ∀ b, Retains True 1 (body b)) {bs : List β}
    {db : Database} (hin : db.InUse 1) {call : β × Database} (hcall : call ∈ handed body bs db) :
    call.2.borrows = db.borrows ∧ db.SameConnection call.2 := by
  induction bs generalizing db with
  | nil => cases hcall
  | cons b bs ih =>
      rcases List.mem_cons.mp hcall with rfl | hcall
      · exact ⟨rfl, Database.sameConnection_of_eq hin.1 rfl⟩
      · have hkept := h b db
        rcases hexec : (body b).exec db with ⟨failure | a, mid⟩
        · rw [hexec] at hcall
          cases hcall
        · rw [hexec] at hcall hkept
          have hsame := hkept.same hin
          obtain ⟨hborrows, hrest⟩ := ih (hin.of_sameConnection hsame hkept.borrows_eq) hcall
          exact ⟨hborrows.trans hkept.borrows_eq, hsame.trans hrest⟩

section

variable {mapping : Cursor → Db (Option α)} {q : Query} {db : Database} {call : Cursor × Database}
  {Column Entity : Type} {t : Table Column Entity}

/-- The mapping of a load is called while the connection that the load has found is held, and in use
once more. -/
theorem same_of_mem_rowCalls (h : ∀ row, Retains True 1 (mapping row))
    (hcall : call ∈ rowCalls q mapping db) :
    call.2.borrows = db.borrows + 1 ∧ db.SameConnection call.2 := by
  obtain ⟨files, _ | c, borrows⟩ := db
  · cases hcall
  · unfold rowCalls at hcall
    dsimp only at hcall
    split at hcall
    · exact same_of_mem_handed h (Database.inUse_borrowed files c borrows) hcall
    · cases hcall

theorem same_of_mem_tableRowCalls (h : ∀ row, Retains True 1 (mapping row))
    (hcall : call ∈ tableRowCalls t q mapping db) :
    call.2.borrows = db.borrows + 1 ∧ db.SameConnection call.2 := by
  have hkept : Kept True 0 db ((createTable t).exec db) := retains_createTable t db
  unfold tableRowCalls at hcall
  rcases hexec : (createTable t).exec db with ⟨failure | _, mid⟩
  · rw [hexec] at hcall
    cases hcall
  · rw [hexec] at hcall hkept
    obtain ⟨c, hc⟩ := exists_connection_of_ok (congrArg Prod.fst hexec)
    have hin := Database.inUse_zero (Option.isSome_of_eq_some hc)
    obtain ⟨hborrows, hsame⟩ := same_of_mem_rowCalls h hcall
    exact ⟨hborrows.trans (congrArg (· + 1) hkept.borrows_eq), (hkept.same hin).trans hsame⟩

end

/-! ## Where a connection that is held is missed -/

section

variable {program : Db α} {db : Database} {q : Query}

/-- A program whose result is changed fails as it has done before. -/
theorem error_of_map {f : α → β} {failure : Failure}
    (h : ((do return f (← program) : Db β).exec db).1 = .error failure) :
    (program.exec db).1 = .error failure := by
  rw [exec_bind] at h
  rcases hexec : program.exec db with ⟨failure' | a, after⟩
  · rw [hexec] at h
    cases h
    rfl
  · rw [hexec] at h
    cases h

/-- After a program that does not miss the connection another one may do so. -/
theorem Misses.of_bind {next : α → Db β} (hprogram : Retains False 0 program)
    (hopen : db.connection.isSome = true) (h : (program >>= next).Misses db) :
    ∃ a mid, program.exec db = (.ok a, mid) ∧ mid.connection.isSome = true ∧
      (next a).Misses mid := by
  have hkept := hprogram db
  have hin := Database.inUse_zero hopen
  unfold Misses at h
  rw [exec_bind] at h
  rcases hexec : program.exec db with ⟨failure | a, mid⟩
  · rw [hexec] at h hkept
    cases h
    exact (hkept.found hin rfl).elim
  · rw [hexec] at h hkept
    exact ⟨a, mid, rfl, (hkept.same hin).isSome, h⟩

/-- If the bodies end with a failure, one of the calls does. -/
theorem exists_handed_of_error {body : β → Db α} {bs : List β} {failure : Failure}
    (h : ((bs.mapM body).exec db).1 = .error failure) :
    ∃ call ∈ handed body bs db, ((body call.1).exec call.2).1 = .error failure := by
  induction bs generalizing db with
  | nil => cases h
  | cons b bs ih =>
      rw [List.mapM_cons, exec_bind] at h
      unfold handed
      rcases hexec : (body b).exec db with ⟨failure' | a, mid⟩
      · rw [hexec] at h
        cases h
        exact ⟨(b, db), List.mem_cons_self, congrArg Prod.fst hexec⟩
      · rw [hexec] at h
        simp only at h
        obtain ⟨call, hcall, hfailed⟩ := ih (error_of_map h)
        exact ⟨call, List.mem_cons_of_mem _ hcall, hfailed⟩

/-- The rows that a connection shows are not missed for want of one. -/
theorem rows_ne_notOpen (c : Connection) (q : Query) : c.rows q ≠ .error .notOpen := by
  unfold Connection.rows
  cases q.toSql with
  | error e => exact fun h => StoreError.ofQuery_ne_notOpen e (Except.error.inj h)
  | ok text =>
      intro h
      obtain ⟨fault, -, hfault⟩ := mapError_eq_error_iff.mp (map_eq_error_iff.mp h)
      exact fault.asStatement_ne_notOpen hfault

/-- A mapped load misses a connection that is held in its mapping only. -/
theorem exists_rowCall_of_misses {mapping : Cursor → Db (Option α)}
    (hopen : db.connection.isSome = true) (h : (loadMapped mapping q).Misses db) :
    ∃ call ∈ rowCalls q mapping db, (mapping call.1).Misses call.2 := by
  obtain ⟨files, _ | c, borrows⟩ := db
  · cases hopen
  · have hbody : (forEachRow q mapping).Misses ⟨files, some c, borrows⟩ := error_of_map h
    unfold Misses at hbody
    rw [exec_forEachRow] at hbody
    unfold rowCalls
    dsimp only
    cases hrows : c.rows q with
    | error e =>
        rw [hrows] at hbody
        cases hbody
        exact absurd hrows (rows_ne_notOpen c q)
    | ok rows =>
        rw [hrows] at hbody
        exact exists_handed_of_error hbody

theorem exists_tableRowCall_of_misses {Column Entity : Type} {t : Table Column Entity}
    {q : SelectQuery t} {mapping : Cursor → Db (Option α)} (hopen : db.connection.isSome = true)
    (h : (loadWith q mapping).Misses db) :
    ∃ call ∈ tableRowCalls t q.query mapping db, (mapping call.1).Misses call.2 := by
  obtain ⟨_, mid, hexec, hmid, hmissed⟩ := Misses.of_bind (retains_createTable t) hopen h
  unfold tableRowCalls
  rw [hexec]
  exact exists_rowCall_of_misses hmid hmissed

end

end Db

/-! ## Calls -/

section

variable {Column Entity : Type} {t : Table Column Entity}

/-- The mapping of the operation ends for want of a connection. -/
def Operation.MappingMisses : Operation t α → Database → Prop
  | loadWith q mapping, db =>
      ∃ call ∈ Db.tableRowCalls t q.query mapping db, (mapping call.1).Misses call.2
  | loadOneWith q mapping, db =>
      ∃ call ∈ Db.tableRowCalls t (q.limitTo 1).query mapping db, (mapping call.1).Misses call.2
  | loadJoinWith q mapping, db =>
      ∃ call ∈ Db.rowCalls q.query mapping db, (mapping call.1).Misses call.2
  | _, _ => False

/-- An operation that takes a query misses a connection that is held in its mapping only. -/
theorem Operation.mappingMisses_of_misses {op : Operation t α} {db : Database}
    (hopen : db.connection.isSome = true) (h : op.run.Misses db) : op.MappingMisses db := by
  have helse (hmappings : op.Mappings (Db.Retains False 1)) : op.MappingMisses db := by
    have hkept : Db.Retains False 0 op.run := retains hmappings
    exact ((hkept db).found (Database.inUse_zero hopen) h).elim
  cases op with
  | loadWith q mapping => exact Db.exists_tableRowCall_of_misses hopen h
  | loadOneWith q mapping => exact Db.exists_tableRowCall_of_misses hopen (Db.error_of_map h)
  | loadJoinWith q mapping => exact Db.exists_rowCall_of_misses hopen h
  | load | loadLenient | loadOne | loadRows | loadValue | update | delete =>
      exact helse trivial

/-- The operation cannot do without a connection: what it takes compiles. -/
def StoreOperation.NeedsConnection : StoreOperation t α → Prop
  | query op => ∃ text, op.query.toSql = .ok text
  | executeTransaction script => ∃ text, script.toSql = .ok text
  | isOpen => False
  | _ => True

/-- Without a connection nothing is done after a query that compiles. -/
theorem Db.exec_orInvalid_of_none {query : Except QueryError β} {b : β} (h : query = .ok b)
    (body : Db α) (files : List (String × StoredFile)) (borrows : Nat) :
    (do discard (orInvalid query); withConnection body : Db α).exec ⟨files, none, borrows⟩
      = (.error (.error .notOpen), ⟨files, none, borrows⟩) := by
  rw [h]
  rfl

/-- Whether it compiles or not, the database is left as it is. -/
theorem Db.snd_exec_orInvalid_of_none (query : Except QueryError β) (body : Db α)
    (files : List (String × StoredFile)) (borrows : Nat) :
    ((do discard (orInvalid query); withConnection body : Db α).exec ⟨files, none, borrows⟩).2
      = ⟨files, none, borrows⟩ := by
  cases query <;> rfl

/-- Without a connection an operation fails for want of one, and changes nothing. -/
theorem Operation.exec_of_none {op : Operation t α} {text : String}
    (h : op.query.toSql = .ok text) (files : List (String × StoredFile)) (borrows : Nat) :
    op.run.exec ⟨files, none, borrows⟩ = (.error (.error .notOpen), ⟨files, none, borrows⟩) := by
  have hbody {β : Type} (body : Db β) := Db.exec_orInvalid_of_none h body files borrows
  cases op with
  | load | loadLenient | loadWith | loadOne | loadOneWith => rfl
  | loadRows | loadValue | delete => exact hbody _
  | loadJoinWith q mapping =>
      have hrows : (Db.forEachRow q.query mapping).exec ⟨files, none, borrows⟩
          = (.error (.error .notOpen), ⟨files, none, borrows⟩) := hbody _
      show (Db.loadMapped mapping q.query).exec _ = _
      unfold Db.loadMapped
      rw [Db.exec_bind, hrows]
  | update q =>
      have hquery : q.statement.toSql = .ok text := h
      show (Db.update q).exec _ = _
      unfold Db.update
      rw [hquery]
      rfl

/-- So does every other operation. -/
theorem StoreOperation.exec_of_none {op : StoreOperation t α} (h : op.NeedsConnection)
    (files : List (String × StoredFile)) (borrows : Nat) :
    op.run.exec ⟨files, none, borrows⟩ = (.error (.error .notOpen), ⟨files, none, borrows⟩) := by
  cases op with
  | query op =>
      obtain ⟨text, htext⟩ := h
      exact op.exec_of_none htext files borrows
  | executeTransaction script =>
      obtain ⟨text, htext⟩ := h
      exact Db.exec_orInvalid_of_none htext _ files borrows
  | isOpen => exact h.elim
  | createTable | dropTable | insert | insertOne | userVersion | setUserVersion | journalMode
  | setJournalMode => rfl

end

/-- An operation that works on whatever connection is held, with the type of its result. -/
inductive Call : Type → Type 1
  /-- A body that is handed the connection. -/
  | withConnection {α : Type} (body : Db α) : Call α
  | execute (script : Script) : Call Unit
  | migrateTable {Column Entity : Type} (t : Table Column Entity) (version : Int32) : Call Unit
  | store {Column Entity α : Type} {t : Table Column Entity} (op : StoreOperation t α) : Call α

namespace Call

/-- What the call does. -/
def run : Call α → Db α
  | withConnection body => Db.withConnection body
  | execute script => Db.execute script
  | migrateTable t version => Db.migrateTable t version
  | store op => op.run

/-- What holds of the closure of the call, if it has one. -/
def Closures (holds : ∀ {β : Type}, Db β → Prop) : Call α → Prop
  | withConnection body => holds body
  | store op => op.Mappings holds
  | _ => True

/-- The closure of the call ends for want of a connection. -/
def ClosureMisses : Call α → Database → Prop
  | withConnection body, db => body.Misses db.borrow
  | store (.query op), db => op.MappingMisses db
  | _, _ => False

/-- The call cannot do without a connection: what it takes compiles, and a migration has a
script. -/
def NeedsConnection : Call α → Prop
  | withConnection _ => True
  | execute script => ∃ text, script.toSql = .ok text
  | migrateTable t version => (t.migration version).isSome = true
  | store op => op.NeedsConnection

variable {c : Call α} {mayMiss : Prop} {least : Nat}

theorem Closures.mono {P Q : ∀ {β : Type}, Db β → Prop} (h : c.Closures P)
    (himp : ∀ {β : Type} (body : Db β), P body → Q body) : c.Closures Q := by
  cases c with
  | withConnection body => exact himp body h
  | execute | migrateTable => trivial
  | store op =>
      cases op with
      | query op =>
          cases op with
          | loadWith q mapping | loadOneWith q mapping | loadJoinWith q mapping =>
              exact fun row => himp _ (h row)
          | load | loadLenient | loadOne | loadRows | loadValue | update | delete => trivial
      | createTable | dropTable | insert | insertOne | userVersion | setUserVersion | isOpen
      | journalMode | setJournalMode | executeTransaction => trivial

/-- A call whose closure keeps a connection in use keeps the one that is held. -/
theorem retains (h : c.Closures (Db.Retains mayMiss 1)) : Db.Retains mayMiss least c.run := by
  cases c with
  | withConnection body => exact .withConnection h
  | execute script => exact Db.retains_execute script
  | migrateTable t version =>
      show Db.Retains mayMiss least (Db.migrateTable t version)
      unfold Db.migrateTable
      cases t.migration version with
      | none => exact Db.retains_pure ()
      | some script =>
          refine .withConnection (Db.retains_runScript (fun fault => ?_) script)
          rintro ⟨⟩
  | store op => exact op.retains h

/-- It misses a connection that is held in its closure only. -/
theorem closureMisses_of_misses {db : Database} (hopen : db.connection.isSome = true)
    (h : c.run.Misses db) : c.ClosureMisses db := by
  have helse (hclosures : c.Closures (Db.Retains False 1)) : c.ClosureMisses db := by
    have hkept : Db.Retains False 0 c.run := retains hclosures
    exact ((hkept db).found (Database.inUse_zero hopen) h).elim
  cases c with
  | withConnection body =>
      obtain ⟨files, _ | c, borrows⟩ := db
      · cases hopen
      · exact h
  | execute | migrateTable => exact helse trivial
  | store op =>
      cases op with
      | query op => exact op.mappingMisses_of_misses hopen h
      | createTable | dropTable | insert | insertOne | userVersion | setUserVersion | isOpen
      | journalMode | setJournalMode | executeTransaction => exact helse trivial

/-- Without a connection a call that needs one fails for want of it, and changes nothing. -/
theorem exec_of_none {db : Database} (h : c.NeedsConnection) (hnone : db.connection = none) :
    c.run.exec db = (.error (.error .notOpen), db) := by
  obtain ⟨files, _, borrows⟩ := db
  cases hnone
  cases c with
  | withConnection body => rfl
  | execute script =>
      obtain ⟨text, htext⟩ := h
      exact Db.exec_orInvalid_of_none htext _ files borrows
  | migrateTable t version =>
      obtain ⟨script, hscript⟩ := Option.isSome_iff_exists.mp h
      show (Db.migrateTable t version).exec _ = _
      unfold Db.migrateTable
      rw [hscript]
      rfl
  | store op => exact op.exec_of_none h files borrows

/-- Nor does any other call change anything then. -/
theorem snd_exec_of_none (c : Call α) {db : Database} (hnone : db.connection = none) :
    (c.run.exec db).2 = db := by
  obtain ⟨files, _, borrows⟩ := db
  cases hnone
  have hquery {β γ : Type} (query : Except QueryError β) (body : Db γ) :=
    Db.snd_exec_orInvalid_of_none query body files borrows
  cases c with
  | withConnection body => rfl
  | execute script => exact hquery _ _
  | migrateTable t version =>
      show ((Db.migrateTable t version).exec _).2 = _
      unfold Db.migrateTable
      cases t.migration version <;> rfl
  | store op =>
      cases op with
      | query op =>
          cases op with
          | load | loadLenient | loadWith | loadOne | loadOneWith => rfl
          | loadRows | loadValue | delete => exact hquery _ _
          | loadJoinWith q mapping =>
              show ((Db.loadMapped mapping q.query).exec _).2 = _
              unfold Db.loadMapped Db.forEachRow
              rw [Db.exec_bind]
              cases q.query.toSql <;> rfl
          | update q =>
              show ((Db.update q).exec _).2 = _
              unfold Db.update
              cases q.statement.toSql <;> rfl
      | setUserVersion | executeTransaction => exact hquery _ _
      | createTable | dropTable | insert | insertOne | userVersion | isOpen | journalMode
      | setJournalMode => rfl

/-- What comes of a call: the connection that is held stays the same one, what is borrowed is given
back, and a call that needs a connection misses it just if none is held, unless its closure does. -/
structure Served (c : Call α) (db : Database) : Prop where
  borrows_eq : (c.run.exec db).2.borrows = db.borrows
  same : db.connection.isSome = true → db.SameConnection (c.run.exec db).2
  misses_iff : c.NeedsConnection → ¬ c.ClosureMisses db →
    (c.run.Misses db ↔ db.connection = none)

theorem served (h : c.Closures (Db.Retains True 1)) (db : Database) : c.Served db := by
  have hkept : Db.Retains True 0 c.run := retains h
  refine ⟨(hkept db).borrows_eq, fun hopen => (hkept db).same (Database.inUse_zero hopen), ?_⟩
  intro hneeds hclosure
  constructor
  · intro hmissed
    by_contra hheld
    exact hclosure (closureMisses_of_misses (Option.isSome_iff_ne_none.mpr hheld) hmissed)
  · intro hnone
    exact congrArg Prod.fst (exec_of_none hneeds hnone)

end Call

end SqlStore
