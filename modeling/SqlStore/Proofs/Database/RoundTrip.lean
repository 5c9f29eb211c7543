/-
# What is inserted is what is loaded

Users are inserted in any number of calls, each of which replaces the users of the same ids or
leaves them as they are.  If all calls succeed, a load in the order of ids gives one user for every
id that has been inserted: the one that is kept under the id after all of them.  Only if there was
no call can the load fail, namely with the error of the creation of the table.  On a connection that
can be written to, all calls succeed whose texts can be written down.

* `HoldsUsers` : a content whose table of users lists what is kept;
* `Database.refusesCreation?` : why a table that is missing cannot be created;
* `Db.leads_insertAll` : the calls;
* `Db.exec_load_users` : the load;
* `Db.load_insertAll` : the round trip.
-/
import SqlStore.Proofs.Database.Program
import SqlStore.Proofs.Store.Users

namespace SqlStore

/-- What is kept after calls that insert users one after another; each call tells whether its users
replace those of their ids. -/
def keepAll (calls : List (List User × Bool)) (kept : Int64 → Option User) : Int64 → Option User :=
  calls.foldl (fun kept call => call.1.foldl (keepUser call.2) kept) kept

/-- The content has a table of users, which lists the users that are kept. -/
def HoldsUsers (kept : Int64 → Option User) (c : Content) : Prop :=
  ∃ us, c.table? "users" = some (usersTable us) ∧ Lists us kept

/-- The content has no table of users. -/
def LacksUsers (c : Content) : Prop := c.table? "users" = none

/-- Why a table that is missing cannot be created, if it cannot.  A statement that does not prepare
is refused for that before it is refused for writing. -/
def Database.refusesCreation? (db : Database) (name : String) : Option StoreError :=
  match db.connection with
  | none => some .notOpen
  | some c =>
      if c.content.hasIndex name then some (Fault.nameTaken name).asStatement
      else if c.readOnly then some Fault.readOnly.asStatement
      else none

/-- A table without users can be added to a content that has none. -/
theorem LacksUsers.holds {c : Content} (h : LacksUsers c) :
    HoldsUsers (fun _ => none) { c with tables := c.tables ++ [usersTable []] } := by
  have hnone : c.tables.find? (fun t => sameName t.name "users") = none := h
  have hsame : sameName "users" "users" = true := sameName_iff.mpr rfl
  refine ⟨[], ?_, .nil⟩
  show (c.tables ++ [usersTable []]).find? (fun t => sameName t.name "users") = _
  rw [List.find?_append, hnone, List.find?_cons]
  show (match sameName "users" "users" with | true => _ | false => _) = _
  rw [hsame]

/-- An insert of a user into the table. -/
theorem HoldsUsers.insert {c : Content} {kept : Int64 → Option User} {us : List User}
    (htable : c.table? "users" = some (usersTable us)) (hlists : Lists us kept) (replace : Bool)
    (u : User) :
    HoldsUsers (keepUser replace kept u) (c.withTable (usersTable (insertUser replace us u))) := by
  refine ⟨insertUser replace us u, ?_, hlists.insert replace u⟩
  apply Content.table?_withTable
  · exact sameName_iff.mpr rfl
  · rw [htable]
    rfl

namespace Db

section

variable {mayFail : Prop} {inTransaction : Bool} {kept : Int64 → Option User}

/-! ## The creation of the table -/

/-- Where there is no table of users it is created, unless an index has its name. -/
theorem leads_createTable_of_lacks :
    Leads mayFail
      (Connection.Has mayFail inTransaction fun c =>
        LacksUsers c ∧ (mayFail ∨ c.hasIndex "users" = false))
      (Connection.Has mayFail inTransaction (HoldsUsers fun _ => none)) (createTable users) := by
  apply Leads.withConnection
  apply Leads.discard
  apply leads_content rfl
  rintro c ⟨hlacks, hindex⟩
  have hnone : (c.table? "users").isSome = false := by
    rw [hlacks]
    rfl
  rw [Content.run_create_users, hnone]
  cases hname : c.hasIndex "users" with
  | false => exact hlacks.holds
  | true =>
      rcases hindex with hmay | hfree
      · exact hmay
      · rw [hname] at hfree
        cases hfree

/-- Where there is no table of users, its creation fails for the reason there is, if there is one,
and leaves the database as it is. -/
theorem exec_createTable_of_lacks {db : Database}
    (hnone : ∀ c, db.connection = some c → LacksUsers c.content) :
    match db.refusesCreation? "users" with
    | some e => (createTable users).exec db = (.error (.error e), db)
    | none => ((createTable users).exec db).1 = .ok () := by
  obtain ⟨files, _ | c, borrows⟩ := db
  · rfl
  · have hlacks : c.content.table? "users" = none := hnone c rfl
    have hmissing : (c.content.table? "users").isSome = false := by
      rw [hlacks]
      rfl
    have hwrites : c.content.writes users.create = true := by
      show (c.content.table? "users").isNone = true
      rw [hlacks]
      rfl
    have hrun := Content.run_create_users c.content
    rw [hmissing] at hrun
    obtain ⟨dirty, hresult⟩ := c.run_of_isOrdinary (s := users.create) rfl
    unfold Content.runReadOnly at hresult
    rw [hrun, hwrites] at hresult
    rw [exec_createTable, hresult]
    cases hindex : c.content.hasIndex "users" <;> cases hreadOnly : c.readOnly <;>
      simp [Database.refusesCreation?, Except.map, Fault.isPrepare, hindex, hreadOnly]

theorem leads_createTable_of_holds :
    Leads mayFail (Connection.Has mayFail inTransaction (HoldsUsers kept))
      (Connection.Has mayFail inTransaction (HoldsUsers kept)) (createTable users) := by
  apply Leads.withConnection
  apply Leads.discard
  apply leads_content rfl
  rintro c ⟨us, htable, hlists⟩
  rw [Content.run_create_users, htable]
  exact ⟨us, htable, hlists⟩

/-- Where there is a table of users, its creation succeeds and changes nothing, even if nothing may
be written. -/
theorem exec_createTable_of_holds {db : Database} {c : Connection}
    (hopen : db.connection = some c) (hc : HoldsUsers kept c.content) :
    ∃ after next, (createTable users).exec db = (.ok (), after) ∧ after.connection = some next ∧
      next.content = c.content := by
  obtain ⟨us, htable, -⟩ := hc
  have hrun : c.content.run users.create = .ok (c.content, 0) := by
    rw [Content.run_create_users, htable]
    rfl
  have hwrites : c.content.writes users.create = false := by
    show (c.content.table? "users").isNone = false
    rw [htable]
    rfl
  have hreadOnly : c.content.runReadOnly users.create = .ok (c.content, 0) := by
    unfold Content.runReadOnly
    rw [hrun, hwrites]
    rfl
  obtain ⟨dirty, hresult⟩ := c.run_of_isOrdinary (s := users.create) rfl
  rw [hrun, hreadOnly, ite_self] at hresult
  obtain ⟨files, _, borrows⟩ := db
  cases hopen
  rw [exec_createTable, hresult]
  exact ⟨_, _, rfl, rfl, rfl⟩

/-! ## Inserts -/

/-- The insert of one user. -/
theorem leads_insert_user (u : User) (replace : Bool) (hzero : mayFail ∨ u.hasZero = false) :
    Leads mayFail (Connection.Has mayFail inTransaction (HoldsUsers kept))
      (Connection.Has mayFail inTransaction (HoldsUsers (keepUser replace kept u)))
      (runStatement Fault.asTransaction
        (users.insert u (if replace then .replace else .ignore))) := by
  apply leads_content rfl
  rintro c ⟨us, htable, hlists⟩
  have hpolicy :
      ((if replace then .replace else .ignore : ConflictPolicy) == .replace) = replace := by
    cases replace <;> rfl
  rw [Content.run_insert_users htable, hpolicy]
  cases htext : u.hasZero with
  | false => exact HoldsUsers.insert htable hlists replace u
  | true =>
      rcases hzero with hmay | hfine
      · exact hmay
      · rw [htext] at hfine
        cases hfine

/-- The inserts of users, one after another. -/
theorem leads_insert_users (us : List User) (replace : Bool)
    (hzero : mayFail ∨ ∀ u ∈ us, u.hasZero = false) :
    Leads mayFail (Connection.Has mayFail inTransaction (HoldsUsers kept))
      (Connection.Has mayFail inTransaction (HoldsUsers (us.foldl (keepUser replace) kept)))
      (us.forM fun u => discard (runStatement Fault.asTransaction
        (users.insert u (if replace then .replace else .ignore)))) := by
  induction us generalizing kept with
  | nil => exact leads_pure ()
  | cons u us ih =>
      have hu : mayFail ∨ u.hasZero = false := hzero.imp_right fun h => h u List.mem_cons_self
      have hus : mayFail ∨ ∀ v ∈ us, v.hasZero = false :=
        hzero.imp_right fun h v hv => h v (List.mem_cons_of_mem u hv)
      exact (leads_insert_user u replace hu).discard.bind fun _ => ih hus

/-- One call, whether or not there has been one before. -/
theorem leads_insert {P : Content → Prop} (us : List User) (replace : Bool)
    (hzero : mayFail ∨ ∀ u ∈ us, u.hasZero = false)
    (hcreate : Leads mayFail (Connection.Has mayFail false P)
      (Connection.Has mayFail false (HoldsUsers kept)) (createTable users)) :
    Leads mayFail (Connection.Has mayFail false P)
      (Connection.Has mayFail false (HoldsUsers (us.foldl (keepUser replace) kept)))
      (insert users us replace) :=
  hcreate.bind fun _ => (leads_insert_users us replace hzero).transaction.withConnection

end

/-- Inserts users in any number of calls. -/
def insertAll (calls : List (List User × Bool)) : Db Unit :=
  calls.forM fun call => insert users call.1 call.2

section

variable {mayFail : Prop} {kept : Int64 → Option User}

/-- Some calls, before which the table is created or has been. -/
theorem leads_insertAll {P : Content → Prop} (call : List User × Bool)
    (calls : List (List User × Bool))
    (hzero : mayFail ∨ ∀ later ∈ call :: calls, ∀ u ∈ later.1, u.hasZero = false)
    (hcreate : Leads mayFail (Connection.Has mayFail false P)
      (Connection.Has mayFail false (HoldsUsers kept)) (createTable users)) :
    Leads mayFail (Connection.Has mayFail false P)
      (Connection.Has mayFail false (HoldsUsers (keepAll (call :: calls) kept)))
      (insertAll (call :: calls)) := by
  induction calls generalizing call kept P with
  | nil =>
      have hcall : mayFail ∨ ∀ u ∈ call.1, u.hasZero = false :=
        hzero.imp_right fun h => h call List.mem_cons_self
      exact (leads_insert call.1 call.2 hcall hcreate).bind leads_pure
  | cons next calls ih =>
      have hcall : mayFail ∨ ∀ u ∈ call.1, u.hasZero = false :=
        hzero.imp_right fun h => h call List.mem_cons_self
      have hcalls : mayFail ∨ ∀ later ∈ next :: calls, ∀ u ∈ later.1, u.hasZero = false :=
        hzero.imp_right fun h later hlater => h later (List.mem_cons_of_mem call hlater)
      exact (leads_insert call.1 call.2 hcall hcreate).bind fun _ =>
        ih next hcalls leads_createTable_of_holds

/-- On a connection that can be written to, outside of a transaction and with nothing that has the
name of the table, all calls succeed whose texts can be written down. -/
theorem insertAll_succeeds {db : Database} {c : Connection} {calls : List (List User × Bool)}
    (hopen : db.connection = some c) (hwritable : c.readOnly = false)
    (houtside : c.inTransaction = false) (hlacks : LacksUsers c.content)
    (hindex : c.content.hasIndex "users" = false)
    (hzero : ∀ call ∈ calls, ∀ u ∈ call.1, u.hasZero = false) :
    ((insertAll calls).exec db).1 = .ok () := by
  cases calls with
  | nil => rfl
  | cons call calls =>
      have hfine : False ∨ ∀ later ∈ call :: calls, ∀ u ∈ later.1, u.hasZero = false := .inr hzero
      have hleads := leads_insertAll call calls hfine leads_createTable_of_lacks db c hopen
        ⟨⟨hlacks, .inr hindex⟩, .inr ⟨hwritable, houtside⟩⟩
      rcases hexec : (insertAll (call :: calls)).exec db with ⟨failure | _, last⟩
      · rw [hexec] at hleads
        exact hleads.elim
      · rfl

end

/-! ## The load -/

variable {kept : Int64 → Option User}

/-- A user is read from its cells. -/
theorem read_cells (u : User) :
    (Cursor.ofRow users.columnNames (u.cells.map Cell.toValue?)).read users.decode = .ok u := by
  obtain ⟨userId, name, age, nickname⟩ := u
  cases age <;> cases nickname <;> rfl

/-- The rows of the users that are listed. -/
theorem exec_rows_users {c : Connection} {us : List User}
    (htable : c.content.table? "users" = some (usersTable us))
    (hascending : us.Pairwise fun u v => u.userId < v.userId)
    (files : List (String × StoredFile)) (borrows : Nat) :
    (rows usersById.query).exec ⟨files, some c, borrows⟩
      = (.ok (us.map fun u => .ofRow users.columnNames (u.cells.map Cell.toValue?)),
        ⟨files, some c, borrows⟩) := by
  have hread : c.read usersById.query = .ok ⟨users.columnNames, us.map User.cells⟩ :=
    Content.select_users htable hascending
  unfold rows
  rw [exec_bind, exec_askConnection, hread]
  show (Except.ok (ResultSet.cursors ⟨users.columnNames, us.map User.cells⟩), _) = _
  unfold ResultSet.cursors
  rw [List.map_map]
  rfl

/-- If the creation of the table succeeds, the load gives the users that the table lists then. -/
theorem exec_load_users {db after : Database} {c : Connection}
    (hcreate : (createTable users).exec db = (.ok (), after)) (hopen : after.connection = some c)
    (hc : HoldsUsers kept c.content) :
    ∃ us, Lists us kept ∧ ((load usersById).exec db).1 = .ok us := by
  obtain ⟨files, _, borrows⟩ := after
  cases hopen
  obtain ⟨us, htable, hlists⟩ := hc
  obtain ⟨text, htext⟩ : ∃ text, usersById.query.toSql = .ok text := ⟨_, rfl⟩
  have hdecode (db : Database) : ((us.map fun u =>
      Cursor.ofRow users.columnNames (u.cells.map Cell.toValue?)).mapM fun row =>
        orInvalid (row.read users.decode)).exec db = (.ok us, db) := by
    apply exec_mapM_map
    intro u db
    rw [read_cells]
    rfl
  refine ⟨us, hlists, ?_⟩
  unfold load loadRows forEachRow
  rw [exec_bind, hcreate]
  show ((do discard (orInvalid usersById.query.toSql); _ : Db (List User)).exec _).1 = _
  rw [htext, exec_bind, exec_discard, exec_orInvalid_ok]
  show ((withConnection _).exec _).1 = _
  rw [exec_withConnection, exec_bind, exec_rows_users htable hlists.ascending]
  simp only
  rw [hdecode]

end Db

/-! ## The round trip -/

/-- An id is kept after some calls if they insert a user of it, or if one was kept before. -/
theorem isSome_keepAll (calls : List (List User × Bool)) (kept : Int64 → Option User) (id : Int64) :
    (keepAll calls kept id).isSome = true ↔
      (∃ call ∈ calls, ∃ u ∈ call.1, u.userId = id) ∨ (kept id).isSome = true := by
  induction calls generalizing kept with
  | nil => simp [keepAll]
  | cons call calls ih =>
      have hcall := isSome_foldl_keepUser call.1 call.2 kept id
      have hcons : keepAll (call :: calls) kept
          = keepAll calls (call.1.foldl (keepUser call.2) kept) := rfl
      rw [hcons, ih, hcall]
      simp only [List.mem_cons, exists_eq_or_imp]
      rw [or_left_comm, or_assoc]

/-- Once calls have succeeded the creation of the table succeeds, and there is a table of the users
that are kept. -/
theorem Db.createTable_of_insertAll {db : Database} {calls : List (List User × Bool)}
    (hnone : ∀ c, db.connection = some c → LacksUsers c.content)
    (hcalls : ((insertAll calls).exec db).1 = .ok ())
    (hfirst : calls = [] → ((createTable users).exec db).1 = .ok ()) :
    ∃ after next, (createTable users).exec ((insertAll calls).exec db).2 = (.ok (), after) ∧
      after.connection = some next ∧ HoldsUsers (keepAll calls fun _ => none) next.content := by
  have hmay {p : Prop} : True ∨ p := .inl trivial
  cases calls with
  | nil =>
      have hcreate := hfirst rfl
      obtain ⟨c, hopen⟩ := exists_connection_of_ok hcreate
      have hstate : True ∨ c.readOnly = false ∧ c.inTransaction = false := hmay
      have hleads := leads_createTable_of_lacks db c hopen ⟨⟨hnone c hopen, hmay⟩, hstate⟩
      show ∃ after next, (createTable users).exec db = (.ok (), after) ∧ _
      rcases hexec : (createTable users).exec db with ⟨r, after⟩
      rw [hexec] at hcreate hleads
      cases hcreate
      obtain ⟨next, hnext, hholds, -⟩ := hleads
      exact ⟨after, next, rfl, hnext, hholds⟩
  | cons call calls =>
      obtain ⟨_, hinsert⟩ := exec_bind_ok db hcalls
      obtain ⟨_, hcreate⟩ := exec_bind_ok db hinsert
      obtain ⟨c, hopen⟩ := exists_connection_of_ok hcreate
      have hleads := leads_insertAll call calls hmay leads_createTable_of_lacks db c hopen
        ⟨⟨hnone c hopen, hmay⟩, hmay⟩
      rcases hexec : (insertAll (call :: calls)).exec db with ⟨r, last⟩
      rw [hexec] at hcalls hleads
      cases hcalls
      obtain ⟨c', hopen', hholds, -⟩ := hleads
      obtain ⟨after, next, hagain, hnext, hcontent⟩ := exec_createTable_of_holds hopen' hholds
      rw [← hcontent] at hholds
      exact ⟨after, next, hagain, hnext, hholds⟩

/-- Users are inserted into a database without a table of them, in any number of calls that all
succeed.  A load in the order of their ids then gives every user that is kept, once: one for each id
that has been inserted.  If there is no call at all, the table has to be one that can be created; if
it cannot, the load fails with the error of the creation. -/
theorem Db.load_insertAll {db : Database} {calls : List (List User × Bool)}
    (hnone : ∀ c, db.connection = some c → LacksUsers c.content)
    (hcalls : ((insertAll calls).exec db).1 = .ok ()) :
    (calls ≠ [] ∨ db.refusesCreation? "users" = none →
      ∃ us, ((load usersById).exec ((insertAll calls).exec db).2).1 = .ok us ∧
        Lists us (keepAll calls fun _ => none) ∧
        ∀ id, (∃ u ∈ us, u.userId = id) ↔ ∃ call ∈ calls, ∃ u ∈ call.1, u.userId = id) ∧
    ∀ e, calls = [] → db.refusesCreation? "users" = some e →
      (createTable users).exec db = (.error (.error e), db) ∧
        (load usersById).exec ((insertAll calls).exec db).2 = (.error (.error e), db) := by
  have hcreation := exec_createTable_of_lacks hnone
  constructor
  · intro hfirst
    have hcreates : calls = [] → ((createTable users).exec db).1 = .ok () := by
      intro hempty
      rw [hfirst.resolve_left (not_not_intro hempty)] at hcreation
      exact hcreation
    obtain ⟨after, next, hcreate, hnext, hholds⟩ := createTable_of_insertAll hnone hcalls hcreates
    obtain ⟨us, hlists, hload⟩ := exec_load_users hcreate hnext hholds
    refine ⟨us, hload, hlists, ?_⟩
    intro id
    have hkept : (keepAll calls (fun _ => none) id).isSome = true ↔ ∃ u ∈ us, u.userId = id := by
      rw [Option.isSome_iff_exists]
      exact exists_congr fun u => hlists.mem id u
    rw [← hkept, isSome_keepAll]
    simp
  · intro e hempty hrefused
    rw [hrefused] at hcreation
    subst hempty
    refine ⟨hcreation, ?_⟩
    show (load usersById).exec db = _
    unfold load
    rw [exec_bind, hcreation]

/-- Calls that insert users of the same ids, which replace each other or not. -/
def collidingCalls : List (List User × Bool) :=
  [([⟨7, "it's", none, none⟩, ⟨-3, "", some (-1), some "''"⟩, ⟨7, "again", some 1, none⟩], false),
    ([⟨-3, "other", none, some ""⟩, ⟨0, "null", some 0, none⟩], true),
    ([], true),
    ([⟨0, "late", none, none⟩], false)]

/-- From a new database in memory those calls succeed, and so does the load after them. -/
theorem Db.load_insertAll_colliding :
    ((insertAll collidingCalls).exec .inMemory).1 = .ok () ∧
      ∃ us, ((load usersById).exec ((insertAll collidingCalls).exec .inMemory).2).1 = .ok us ∧
        Lists us (keepAll collidingCalls fun _ => none) := by
  have hnone : ∀ c, Database.inMemory.connection = some c → LacksUsers c.content := by
    rintro c ⟨⟩
    rfl
  have hzero : ∀ call ∈ collidingCalls, ∀ u ∈ call.1, u.hasZero = false := by
    simp [collidingCalls, User.hasZero]
  have hcalls : ((insertAll collidingCalls).exec .inMemory).1 = .ok () :=
    insertAll_succeeds rfl rfl rfl rfl rfl hzero
  have hsome : collidingCalls ≠ [] := by
    rintro ⟨⟩
  obtain ⟨us, hload, hlists, -⟩ := (load_insertAll hnone hcalls).1 (.inl hsome)
  exact ⟨hcalls, us, hload, hlists⟩

/-- An empty file, open for reading only, has no table of users, and without an insert none can be
loaded. -/
theorem Db.load_insertAll_readOnly :
    let db := ((openReadOnly "f").exec (Database.empty.withFile "f" ⟨.empty, false⟩)).2
    (∃ c, db.connection = some c ∧ LacksUsers c.content) ∧ ((insertAll []).exec db).1 = .ok () ∧
      ∀ us, ((load usersById).exec ((insertAll []).exec db).2).1 ≠ .ok us := by
  intro db
  have hlacks : ∃ c, db.connection = some c ∧ LacksUsers c.content := ⟨_, rfl, rfl⟩
  refine ⟨hlacks, rfl, ?_⟩
  intro us hload
  have hnone : ((load usersById).exec ((insertAll []).exec db).2).1.toOption = none := by
    decide +kernel
  rw [hload] at hnone
  cases hnone

end SqlStore
