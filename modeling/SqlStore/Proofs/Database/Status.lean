/-
# The status of the connection

A connection is in a transaction or outside of one.  An operation that runs in a transaction of its
own ends that one however it ends itself: if it fails in the middle, if the commit fails, and also
if its script has ended or restarted the transaction.  In the transaction of somebody else it
cannot begin its own and leaves that transaction as it is.

* `Connection.yields_create` : the creation of a table;
* `Db.Keeps` : what a program does to the connection, whatever comes of it;
* `Db.keeps_transaction`, `Db.exec_transaction_of_inTransaction` : outside of a transaction, and in
  one;
* `StoreOperation` : every operation but those that replace or close the connection and those that
  run a script as it stands;
* `StoreOperation.status` : they leave the status as it was.
-/
import SqlStore.Proofs.Database.Refusal

namespace SqlStore

/-! ## One statement and a script -/

namespace Connection

/-- A statement outside of transactions keeps the status. -/
theorem inTransaction_run (c : Connection) {s : Statement} (hs : s.isTransactional = false) :
    Yields (fun result => result.1.inTransaction = c.inTransaction) (c.run s) := by
  rw [c.run_eq hs]
  exact Yields.map (Q := fun _ => True) (fun _ _ => trivial) fun _ _ => rfl

/-- So do statements one after another. -/
theorem inTransaction_runScript {script : Script} (h : ∀ s ∈ script, s.isTransactional = false)
    (c : Connection) : (c.runScript script).1.inTransaction = c.inTransaction := by
  induction script generalizing c with
  | nil => rfl
  | cons s script ih =>
      obtain ⟨hs, hrest⟩ := List.forall_mem_cons.mp h
      unfold runScript
      cases hrun : c.run s with
      | error fault => rfl
      | ok result => exact (ih hrest result.1).trans (c.inTransaction_run hs result hrun)

/-- So does a change of the journal mode. -/
theorem inTransaction_setJournal (c : Connection) (mode : JournalMode) :
    Yields (fun next => next.inTransaction = c.inTransaction) (c.setJournal mode) := by
  unfold setJournal
  refine .ite (.ok rfl) ?_
  split
  · refine .ok ?_
    split <;> rfl
  · exact .ite (.ok rfl) (.ite (.error _) (.ite (.error _) (.ok rfl)))

end Connection

/-! ## The creation of a table -/

/-- What the creation of a table makes of a content: it adds the table, without rows, unless there
is one. -/
inductive Content.Creates (c : Content) (name : String) : Content → Prop
  | there : Creates c name c
  | added (t : StoredTable) (hname : t.name = name) (hrows : t.rows = []) :
      Creates c name { c with tables := c.tables ++ [t] }

/-- A new table has its name and no rows. -/
theorem StoredTable.yields_ofDeclarations (name : String) (columns : List ColumnDecl) :
    Yields (fun t => t.name = name ∧ t.rows = []) (ofDeclarations name columns) := by
  unfold ofDeclarations
  refine .bind fun stored => ?_
  split
  · exact .error _
  · exact .ite (.throw_bind _ _) (.ok ⟨rfl, rfl⟩)

theorem Content.yields_creates (c : Content) (name : String) (columns : List ColumnDecl) :
    Yields (c.Creates name) (c.create name columns) := by
  unfold create
  dsimp only
  refine .bind fun _ => .ite (.throw_bind _ _) (.bind fun _ => .ite (.throw_bind _ _) ?_)
  refine .ite (.ok .there) (.ite (.throw_bind _ _) ?_)
  intro after hafter
  have htable := StoredTable.yields_ofDeclarations name columns
  cases hresult : StoredTable.ofDeclarations name columns with
  | error fault =>
      rw [hresult] at hafter
      cases hafter
  | ok t =>
      rw [hresult] at hafter
      cases hafter
      obtain ⟨hname, hrows⟩ := htable t hresult
      exact .added t hname hrows

section

variable {Column Entity : Type}

/-- What comes of the creation of a table, which changes nothing if it is there. -/
theorem Content.yields_run_create (c : Content) (t : Table Column Entity) :
    Yields (fun result => c.Creates t.name result.1 ∧
      ((c.table? t.name).isSome = true → result.1 = c)) (c.run t.create) := by
  have hcreate : Yields (fun content => c.Creates t.name content ∧
      ((c.table? t.name).isSome = true → content = c))
      (c.create t.name (t.columns.map t.declaration)) := by
    intro content hcontent
    exact ⟨c.yields_creates t.name _ content hcontent,
      fun htable => Content.create_of_table htable _ content hcontent⟩
  exact hcreate.map fun _ hcontent => hcontent

/-- The creation of a table changes nothing but for that table. -/
theorem Connection.yields_create (c : Connection) (t : Table Column Entity) :
    Yields (fun result => ∃ content, c.content.Creates t.name content ∧
      ((c.content.table? t.name).isSome = true → content = c.content) ∧
      result.1 = c.withContent content) (c.run t.create) := by
  have hcreate := c.content.yields_run_create t
  rw [c.run_eq rfl]
  refine Yields.map (.ite (Content.yields_runReadOnly_of hcreate) hcreate) ?_
  rintro ⟨content, count⟩ ⟨hcontent, hthere⟩
  refine ⟨content, hcontent, hthere, ?_⟩
  have hoverwrites : t.create.overwrites count = false := rfl
  simp only [hoverwrites, Bool.or_false]
  rfl

end

/-! ## What a program does to the connection -/

namespace Db

variable {α β : Type}

/-- An open connection with the property stays open and keeps it, whatever comes of the program. -/
def Keeps (P : Connection → Prop) (program : Db α) : Prop :=
  ∀ db c, db.connection = some c → P c →
    ∃ next, (program.exec db).2.connection = some next ∧ P next

section

variable {P : Connection → Prop} {program : Db α} {next : α → Db β}

/-- A program that leaves the database alone. -/
theorem Keeps.of_eq (h : ∀ db, (program.exec db).2 = db) : Keeps P program := by
  intro db c hopen hc
  rw [h db]
  exact ⟨c, hopen, hc⟩

theorem keeps_pure (a : α) : Keeps P (pure a) := .of_eq fun _ => rfl

theorem Keeps.bind (hprogram : Keeps P program) (hnext : ∀ a, Keeps P (next a)) :
    Keeps P (program >>= next) := by
  intro db c hopen hc
  have hfirst := hprogram db c hopen hc
  rw [exec_bind]
  rcases hexec : program.exec db with ⟨failure | a, mid⟩
  · rw [hexec] at hfirst
    exact hfirst
  · rw [hexec] at hfirst
    obtain ⟨c', hopen', hc'⟩ := hfirst
    exact hnext a mid c' hopen' hc'

theorem Keeps.discard (hprogram : Keeps P program) : Keeps P (discard program) := by
  intro db c hopen hc
  rw [exec_discard]
  exact hprogram db c hopen hc

theorem Keeps.withConnection (hprogram : Keeps P program) : Keeps P (withConnection program) := by
  rintro ⟨files, _, borrows⟩ c ⟨⟩ hc
  rw [exec_withConnection]
  exact hprogram ⟨files, some c, borrows + 1⟩ c rfl hc

/-- A program for each element of a list. -/
theorem Keeps.mapM {f : α → Db β} (h : ∀ a, Keeps P (f a)) (as : List α) : Keeps P (as.mapM f) := by
  induction as with
  | nil => exact keeps_pure _
  | cons a as ih =>
      rw [List.mapM_cons]
      exact (h a).bind fun _ => ih.bind fun _ => keeps_pure _

/-- A program for each element of a list, without results. -/
theorem Keeps.forM {f : α → Db Unit} (h : ∀ a, Keeps P (f a)) (as : List α) :
    Keeps P (as.forM f) := by
  induction as with
  | nil => exact keeps_pure _
  | cons a as ih => exact (h a).bind fun _ => ih

theorem keeps_orInvalid (a : Except QueryError α) : Keeps P (orInvalid a) := by
  cases a <;> exact .of_eq fun _ => rfl

/-- A question to the connection. -/
theorem keeps_askConnection (ask : Connection → Except StoreError α) :
    Keeps P (askConnection ask) := by
  rintro ⟨files, _, borrows⟩ c ⟨⟩ hc
  rw [exec_askConnection]
  exact ⟨c, rfl, hc⟩

/-- A change of the connection. -/
theorem keeps_changeConnection {change : Connection → Except StoreError (Connection × α)}
    (h : ∀ c, P c → Yields (fun result => P result.1) (change c)) :
    Keeps P (changeConnection change) := by
  rintro ⟨files, _, borrows⟩ c ⟨⟩ hc
  unfold changeConnection
  rw [exec_bind, exec_askConnection]
  cases hchange : change c with
  | error e => exact ⟨c, rfl, hc⟩
  | ok result => exact ⟨result.1, rfl, h c hc result hchange⟩

/-- One statement. -/
theorem keeps_runStatement (blame : Fault → StoreError) {s : Statement}
    (h : ∀ c, P c → Yields (fun result => P result.1) (c.run s)) :
    Keeps P (runStatement blame s) := by
  apply keeps_changeConnection
  intro c hc result hresult
  exact h c hc result (mapError_eq_ok_iff.mp hresult)

/-- A script. -/
theorem keeps_runScript (blame : Fault → StoreError) {script : Script}
    (h : ∀ c : Connection, P c → P (c.runScript script).1) : Keeps P (runScript blame script) := by
  unfold runScript
  refine .bind (keeps_changeConnection fun c hc => .ok (h c hc)) fun fault => ?_
  cases fault <;> exact .of_eq fun _ => rfl

/-- The rows of a query, and what a body makes of them. -/
theorem keeps_forEachRow {body : Cursor → Db α} (hbody : ∀ row, Keeps P (body row)) (q : Query) :
    Keeps P (forEachRow q body) := by
  have hrows : Keeps P (rows q) := (keeps_askConnection _).bind fun _ => keeps_pure _
  exact .bind (keeps_orInvalid _).discard fun _ => .withConnection (hrows.bind (.mapM hbody))

theorem keeps_loadMapped {mapping : Cursor → Db (Option α)} (h : ∀ row, Keeps P (mapping row))
    (q : Query) : Keeps P (loadMapped mapping q) :=
  (keeps_forEachRow h q).bind fun _ => keeps_pure _

end

/-! ## Transactions -/

/-- In an open transaction another one cannot begin. -/
theorem exec_transaction_of_inTransaction {c : Connection} (hc : c.inTransaction = true)
    (files : List (String × StoredFile)) (borrows : Nat) (body : Db Unit) :
    ∃ detail, (transaction body).exec ⟨files, some c, borrows⟩
      = (.error (.error (.transaction detail)), ⟨files, some c, borrows⟩) := by
  obtain ⟨location, readOnly, journal, content, _ | saved, dirty⟩ := c
  · cases hc
  · refine ⟨Fault.openTransaction.message, ?_⟩
    unfold transaction
    extract_lets rollback
    rw [exec_bind, exec_discard, exec_runStatement]
    rfl

/-- A commit that succeeds ends the transaction. -/
theorem exec_commit (blame : Fault → StoreError) {db : Database} {c : Connection}
    (hopen : db.connection = some c) :
    ∃ next, ((discard (runStatement blame .commit)).exec db).2.connection = some next ∧
      (((discard (runStatement blame .commit)).exec db).1 = .ok () →
        next.inTransaction = false) := by
  obtain ⟨files, _, borrows⟩ := db
  cases hopen
  rw [exec_discard, exec_runStatement]
  obtain ⟨location, readOnly, journal, content, _ | saved, dirty⟩ := c
  · exact ⟨_, rfl, nofun⟩
  · exact ⟨_, rfl, fun _ => rfl⟩

/-- Outside of a transaction one is over when it has been committed or rolled back, whatever its
body has done to it. -/
theorem keeps_transaction_outside {body : Db Unit} (hbody : Keeps (fun _ => True) body) :
    Keeps (·.inTransaction = false) (transaction body) := by
  rintro ⟨files, _, borrows⟩ ⟨location, readOnly, journal, content, _ | saved, dirty⟩ ⟨⟩ hc
  · unfold transaction
    extract_lets rollback
    have hrollback (failure : Failure) (db : Database) (c : Connection)
        (hopen : db.connection = some c) :
        ∃ next, ((do rollback; throw failure : Db Unit).exec db).2.connection = some next ∧
          next.inTransaction = false := by
      obtain ⟨files, _, borrows⟩ := db
      cases hopen
      obtain ⟨location, readOnly, journal, content, _ | saved, dirty⟩ := c
      · exact ⟨_, rfl, rfl⟩
      · exact ⟨_, rfl, rfl⟩
    let begun : Database :=
      ⟨files, some ⟨location, readOnly, journal, content, some content, false⟩, borrows⟩
    rw [exec_bind, exec_discard, exec_runStatement]
    show ∃ next, ((tryCatch (do body; discard (runStatement Fault.asTransaction .commit))
      fun failure => do rollback; throw failure).exec begun).2.connection = some next ∧ _
    rw [exec_tryCatch, exec_bind]
    -- The body leaves a connection, in whatever transaction; a commit or the rollback ends that.
    obtain ⟨c', hopen', -⟩ := hbody begun _ rfl trivial
    rcases hexec : body.exec begun with ⟨failure | _, mid⟩
    · rw [hexec] at hopen'
      exact hrollback failure mid c' hopen'
    · rw [hexec] at hopen'
      obtain ⟨last, hlast, hover⟩ := exec_commit Fault.asTransaction hopen'
      simp only
      rcases hcommit : (discard (runStatement Fault.asTransaction .commit)).exec mid
        with ⟨failure | _, after⟩
      · rw [hcommit] at hlast
        exact hrollback failure after last hlast
      · rw [hcommit] at hlast hover
        exact ⟨last, hlast, hover rfl⟩
  · cases hc

/-- A transaction keeps the status, if its body keeps the connection open. -/
theorem keeps_transaction {body : Db Unit} (hbody : Keeps (fun _ => True) body) (status : Bool) :
    Keeps (·.inTransaction = status) (transaction body) := by
  cases status with
  | true =>
      rintro ⟨files, _, borrows⟩ c ⟨⟩ hc
      obtain ⟨detail, hrefused⟩ := exec_transaction_of_inTransaction hc files borrows body
      rw [hrefused]
      exact ⟨c, rfl, hc⟩
  | false => exact keeps_transaction_outside hbody

end Db

/-! ## Operations -/

variable {Column Entity : Type} {t : Table Column Entity} {α : Type}

/-- The mapping of the operation, if it has one, leaves the database alone. -/
def Operation.MapsRows : Operation t α → Prop
  | loadWith _ mapping | loadOneWith _ mapping | loadJoinWith _ mapping =>
      ∀ row db, ((mapping row).exec db).2 = db
  | _ => True

/-- An operation of a database, with the type of its result: every one but those that replace or
close the connection and those that run a script as it stands. -/
inductive StoreOperation (t : Table Column Entity) : Type → Type 1
  /-- An operation that takes a query. -/
  | query {α : Type} (op : Operation t α) : StoreOperation t α
  | createTable : StoreOperation t Unit
  | dropTable : StoreOperation t Unit
  | insert (entities : List Entity) (replace : Bool) : StoreOperation t Unit
  | insertOne (entity : Entity) (replace : Bool) : StoreOperation t Unit
  | userVersion : StoreOperation t Int32
  | setUserVersion (version : Int32) : StoreOperation t Unit
  | isOpen : StoreOperation t Bool
  | journalMode : StoreOperation t JournalMode
  | setJournalMode (mode : JournalMode) : StoreOperation t JournalMode
  | executeTransaction (script : Script) : StoreOperation t Unit

namespace StoreOperation

/-- What the operation does. -/
def run : StoreOperation t α → Db α
  | query op => op.run
  | createTable => Db.createTable t
  | dropTable => Db.dropTable t
  | insert entities replace => Db.insert t entities replace
  | insertOne entity replace => Db.insertOne t entity replace
  | userVersion => Db.userVersion
  | setUserVersion version => Db.setUserVersion version
  | isOpen => Db.isOpen
  | journalMode => Db.journalMode
  | setJournalMode mode => Db.setJournalMode mode
  | executeTransaction script => Db.executeTransaction script

/-- The mapping of the operation, if it has one, leaves the database alone. -/
def MapsRows : StoreOperation t α → Prop
  | query op => op.MapsRows
  | _ => True

end StoreOperation

section

variable (status : Bool)

/-- A statement outside of transactions keeps the status. -/
theorem Db.keeps_status (blame : Fault → StoreError) {s : Statement}
    (hs : s.isTransactional = false) : Keeps (·.inTransaction = status) (runStatement blame s) :=
  keeps_runStatement blame fun c hc result hresult =>
    (c.inTransaction_run hs result hresult).trans hc

/-- So does the creation of a table. -/
theorem Db.keeps_createTable : Keeps (·.inTransaction = status) (createTable t) :=
  .withConnection (keeps_status status _ rfl).discard

/-- An insert creates its table, and keeps the status by its transaction. -/
theorem Db.keeps_insert (entities : List Entity) (replace : Bool) :
    Keeps (·.inTransaction = status) (insert t entities replace) := by
  refine .bind (keeps_createTable status) fun _ => .withConnection (keeps_transaction ?_ status)
  exact .forM (fun e => (keeps_runStatement _ fun _ _ _ _ => trivial).discard) entities

/-- An operation that takes a query keeps the status. -/
theorem Operation.keeps {op : Operation t α} (h : op.MapsRows) :
    Db.Keeps (·.inTransaction = status) op.run := by
  have hcreate := Db.keeps_createTable (t := t) status
  have hload (q : SelectQuery t) : Db.Keeps (·.inTransaction = status) (Db.load q) :=
    hcreate.bind fun _ => Db.keeps_forEachRow (fun row => Db.keeps_orInvalid _) _
  have hloadWith {β : Type} (q : SelectQuery t) {mapping : Cursor → Db (Option β)}
      (hmapping : ∀ row db, ((mapping row).exec db).2 = db) :
      Db.Keeps (·.inTransaction = status) (Db.loadWith q mapping) :=
    hcreate.bind fun _ => Db.keeps_loadMapped (fun row => .of_eq (hmapping row)) _
  cases op with
  | load q => exact hload q
  | loadLenient q => exact hloadWith q fun row db => rfl
  | loadWith q mapping => exact hloadWith q h
  | loadOne q => exact (hload _).bind fun _ => Db.keeps_pure _
  | loadOneWith q mapping => exact (hloadWith _ h).bind fun _ => Db.keeps_pure _
  | loadRows reader q => exact Db.keeps_forEachRow (fun row => Db.keeps_orInvalid _) q
  | loadValue α q =>
      refine (Db.keeps_orInvalid _).discard.bind fun _ => .withConnection ?_
      exact ((Db.keeps_askConnection _).bind fun _ => Db.keeps_pure _).bind fun _ => Db.keeps_pure _
  | loadJoinWith q mapping => exact Db.keeps_loadMapped (fun row => .of_eq (h row)) _
  | update q =>
      refine (Db.keeps_orInvalid _).discard.bind fun _ => hcreate.bind fun _ => ?_
      exact .withConnection (Db.keeps_status status _ rfl)
  | delete q =>
      refine (Db.keeps_orInvalid _).discard.bind fun _ => ?_
      exact .withConnection (Db.keeps_status status _ rfl)

/-- Every operation keeps the status. -/
theorem StoreOperation.keeps {op : StoreOperation t α} (h : op.MapsRows) :
    Db.Keeps (·.inTransaction = status) op.run := by
  cases op with
  | query op => exact op.keeps status h
  | createTable => exact Db.keeps_createTable status
  | dropTable => exact .withConnection (Db.keeps_status status _ rfl).discard
  | insert entities replace => exact Db.keeps_insert status entities replace
  | insertOne entity replace => exact Db.keeps_insert status [entity] replace
  | userVersion => exact .withConnection (Db.keeps_askConnection _)
  | setUserVersion version =>
      refine (Db.keeps_orInvalid _).discard.bind fun _ => .withConnection ?_
      refine Db.keeps_runScript _ fun c hc => ?_
      exact (c.inTransaction_runScript (List.forall_mem_singleton.mpr rfl)).trans hc
  | isOpen => exact .of_eq fun _ => rfl
  | journalMode => exact .withConnection (Db.keeps_askConnection _)
  | setJournalMode mode =>
      refine .withConnection (Db.keeps_changeConnection fun c hc result hresult => ?_)
      obtain ⟨next, hjournal, rfl⟩ := map_eq_ok_iff.mp (mapError_eq_ok_iff.mp hresult)
      exact (c.inTransaction_setJournal mode next hjournal).trans hc
  | executeTransaction script =>
      refine (Db.keeps_orInvalid _).discard.bind fun _ => .withConnection ?_
      exact Db.keeps_transaction (Db.keeps_runScript _ fun _ _ => trivial) status

end

/-! ## In somebody else's transaction -/

namespace Db

section

variable {c : Connection} (files : List (String × StoredFile)) (borrows : Nat)

/-- The creation of a table fails without a change, or it changes the content of the connection by
that table, if it is missing. -/
theorem exec_createTable_cases (t : Table Column Entity) :
    (∃ e, (createTable t).exec ⟨files, some c, borrows⟩
      = (.error (.error e), ⟨files, some c, borrows⟩)) ∨
    ∃ content, c.content.Creates t.name content ∧
      ((c.content.table? t.name).isSome = true → content = c.content) ∧
      (createTable t).exec ⟨files, some c, borrows⟩
        = (.ok (), ⟨files, some (c.withContent content), borrows⟩) := by
  have hcreates := c.yields_create t
  rw [exec_createTable]
  cases hrun : c.run t.create with
  | error fault => exact .inl ⟨fault.asStatement, rfl⟩
  | ok result =>
      obtain ⟨content, hcontent, hthere, hnext⟩ := hcreates result hrun
      refine .inr ⟨content, hcontent, hthere, ?_⟩
      simp only [hnext]

/-- A script that compiles cannot be run as a transaction of its own. -/
theorem exec_executeTransaction_of_inTransaction (hc : c.inTransaction = true) (script : Script) :
    ((executeTransaction script).exec ⟨files, some c, borrows⟩).2 = ⟨files, some c, borrows⟩ ∧
      ∀ text, script.toSql = .ok text → ∃ detail,
        ((executeTransaction script).exec ⟨files, some c, borrows⟩).1
          = .error (.error (.transaction detail)) := by
  obtain ⟨detail, hrefused⟩ := exec_transaction_of_inTransaction hc files (borrows + 1)
    (runScript Fault.asTransaction script)
  unfold executeTransaction
  rw [exec_bind, exec_discard]
  cases hsql : script.toSql with
  | error e => exact ⟨rfl, nofun⟩
  | ok text =>
      have hbody : (withConnection (transaction (runScript Fault.asTransaction script))).exec
          ⟨files, some c, borrows⟩
            = (.error (.error (.transaction detail)), ⟨files, some c, borrows⟩) := by
        rw [exec_withConnection, hrefused]
        rfl
      refine ⟨congrArg Prod.snd hbody, fun _ _ => ⟨detail, congrArg Prod.fst hbody⟩⟩

/-- Rows cannot be inserted in a transaction of their own, but the table may have been created. -/
theorem exec_insert_of_inTransaction (hc : c.inTransaction = true) (t : Table Column Entity)
    (entities : List Entity) (replace : Bool) :
    (∃ e, (createTable t).exec ⟨files, some c, borrows⟩
        = (.error (.error e), ⟨files, some c, borrows⟩) ∧
      (insert t entities replace).exec ⟨files, some c, borrows⟩
        = (.error (.error e), ⟨files, some c, borrows⟩)) ∨
    ∃ detail content dirty, c.content.Creates t.name content ∧
      (insert t entities replace).exec ⟨files, some c, borrows⟩
        = (.error (.error (.transaction detail)),
          ⟨files, some { c with content, dirty }, borrows⟩) := by
  unfold insert
  extract_lets policy
  rw [exec_bind]
  rcases exec_createTable_cases (c := c) files borrows t with ⟨e, hcreate⟩ |
    ⟨content, hcontent, -, hcreate⟩
  · rw [hcreate]
    exact .inl ⟨e, rfl, rfl⟩
  · have hnext : (c.withContent content).inTransaction = true := hc
    obtain ⟨detail, hrefused⟩ := exec_transaction_of_inTransaction hnext files (borrows + 1)
      (entities.forM fun e => discard (runStatement Fault.asTransaction (t.insert e policy)))
    refine .inr ⟨detail, content, (c.withContent content).dirty, hcontent, ?_⟩
    rw [hcreate]
    simp only [exec_withConnection, hrefused]
    rfl

end

end Db

/-- On an open connection an operation keeps the status, whatever it returns.  In an open
transaction a script cannot be run as a transaction of its own and changes nothing, and rows cannot
be inserted: the creation of the table fails, or the table is there and the transaction fails to
begin. -/
theorem StoreOperation.status {op : StoreOperation t α} (h : op.MapsRows) {db : Database}
    {c : Connection} (hopen : db.connection = some c) :
    (∃ next, (op.run.exec db).2.connection = some next ∧ next.inTransaction = c.inTransaction) ∧
    (c.inTransaction = true →
      (∀ script, ((Db.executeTransaction script).exec db).2 = db ∧
        ∀ text, script.toSql = .ok text → ∃ detail,
          ((Db.executeTransaction script).exec db).1 = .error (.error (.transaction detail))) ∧
      ∀ entities replace,
        (∃ e, (Db.createTable t).exec db = (.error (.error e), db) ∧
          (Db.insert t entities replace).exec db = (.error (.error e), db)) ∨
        ∃ detail content dirty, c.content.Creates t.name content ∧
          (Db.insert t entities replace).exec db
            = (.error (.error (.transaction detail)),
              { db with connection := some { c with content, dirty } })) := by
  have hkeeps := StoreOperation.keeps c.inTransaction h db c hopen rfl
  refine ⟨hkeeps, fun hc => ?_⟩
  obtain ⟨files, _, borrows⟩ := db
  cases hopen
  exact ⟨Db.exec_executeTransaction_of_inTransaction files borrows hc,
    Db.exec_insert_of_inTransaction files borrows hc t⟩

/-- In an open transaction a load leaves it open, a script that would commit it is not run, and a
user cannot be inserted. -/
theorem StoreOperation.status_in_transaction :
    let db : Database :=
      { Database.inMemory with
        connection := some { Connection.inMemory with saved := some .empty } }
    let load : Db (List Unit) := Db.loadWith (SelectQuery.all users) fun _ => pure (some ())
    (∃ next, (load.exec db).2.connection = some next ∧ next.inTransaction = true) ∧
      ((Db.executeTransaction [.commit]).exec db).2 = db ∧
      ((Db.insert users [⟨1, "Ann", none, none⟩] true).exec db).1.toOption = none := by
  intro db load
  have hmapping : (StoreOperation.query (.loadWith (SelectQuery.all users) fun _ =>
    pure (some ()))).MapsRows := fun _ _ => rfl
  have hdb : db.connection = some { Connection.inMemory with saved := some .empty } := rfl
  obtain ⟨hstatus, hopen⟩ := status hmapping hdb
  obtain ⟨hscript, hinsert⟩ := hopen rfl
  refine ⟨hstatus, (hscript [.commit]).1, ?_⟩
  rcases hinsert [⟨1, "Ann", none, none⟩] true with ⟨e, -, hrefused⟩ |
    ⟨detail, content, dirty, -, hrefused⟩
  · rw [hrefused]
    rfl
  · rw [hrefused]
    rfl

end SqlStore
