/-
# Transactions

A body that does what a script does is run as a transaction by running the script between `BEGIN`
and `COMMIT`.  If a statement fails, the transaction that is open then is given up, and with it
everything since the last `BEGIN`; so nothing is left of a script that does not end the transaction
itself.  Rows are inserted by statements that do as little to a transaction in which they run as it
does to them: an insert is its statements one after another, or it is nothing.

* `Connection.IsAutocommit`, `Connection.abandon` : outside of transactions, and back to there;
* `Connection.abandon_runScript`, `Connection.IsAutocommit.runScript_transaction` : what is given
  up, and what is kept;
* `Db.exec_transaction_script` : a transaction as a script;
* `Db.insert_all_or_none` : inserting entities;
* `Db.executeTransaction_spec` : running a script as a transaction.
-/
import SqlStore.Proofs.Database.Status
import SqlStore.Proofs.Store.Users

namespace SqlStore

/-- Whether the statement ends a transaction. -/
def Statement.endsTransaction : Statement → Bool
  | commit | rollback => true
  | _ => false

theorem Statement.endsTransaction_of_isTransactional (s : Statement)
    (h : s.isTransactional = false) : s.endsTransaction = false := by
  cases s <;> first | rfl | cases h

/-- A script between `BEGIN` and `COMMIT`. -/
def Script.asTransaction (script : Script) : Script := .begin :: (script ++ [.commit])

namespace Connection

/-- No transaction is open, so that none has written. -/
structure IsAutocommit (c : Connection) : Prop where
  saved : c.saved = none
  dirty : c.dirty = false

/-- The connection after the transaction has been given up, if one is open. -/
def abandon (c : Connection) : Connection :=
  match c.saved with
  | none => c
  | some saved => { c with content := saved, saved := none, dirty := false }

/-- The connection at the start of a transaction. -/
def begun (c : Connection) : Connection := { c with saved := some c.content, dirty := false }

/-! ## Scripts -/

section

variable (c : Connection)

theorem runScript_cons (s : Statement) (script : Script) :
    c.runScript (s :: script) = match c.run s with
      | .ok (next, _) => next.runScript script
      | .error fault => (c, some fault) := rfl

/-- One script after another, unless the first one fails. -/
theorem runScript_append (script more : Script) :
    c.runScript (script ++ more) = match c.runScript script with
      | (next, none) => next.runScript more
      | (next, some fault) => (next, some fault) := by
  induction script generalizing c with
  | nil => rfl
  | cons s script ih =>
      rw [List.cons_append, runScript_cons, runScript_cons]
      cases c.run s with
      | error fault => rfl
      | ok result => exact ih result.1

/-- A script that fails does so at a statement, before which all have succeeded. -/
theorem exists_of_runScript_fault {c last : Connection} {script : Script} {fault : Fault}
    (h : c.runScript script = (last, some fault)) :
    ∃ earlier s later, script = earlier ++ s :: later ∧ c.runScript earlier = (last, none) ∧
      last.run s = .error fault := by
  induction script generalizing c with
  | nil => cases h
  | cons s script ih =>
      rw [runScript_cons] at h
      cases hrun : c.run s with
      | error fault' =>
          rw [hrun] at h
          cases h
          exact ⟨[], s, script, rfl, rfl, hrun⟩
      | ok result =>
          rw [hrun] at h
          obtain ⟨earlier, s', later, rfl, hearlier, hfault⟩ := ih h
          refine ⟨s :: earlier, s', later, rfl, ?_, hfault⟩
          rw [runScript_cons, hrun]
          exact hearlier

/-- A transaction can be begun where none is open. -/
theorem run_begin (hc : c.saved = none) : c.run .begin = .ok (c.begun, 0) := by
  obtain ⟨location, readOnly, journal, content, _ | saved, dirty⟩ := c
  · rfl
  · cases hc

end

section

variable {c : Connection}

/-- A script as a transaction, where none is open. -/
theorem runScript_asTransaction (hc : c.saved = none) (script : Script) :
    c.runScript script.asTransaction = match c.begun.runScript script with
      | (next, none) => next.runScript [.commit]
      | (next, some fault) => (next, some fault) := by
  unfold Script.asTransaction
  rw [runScript_cons, c.run_begin hc]
  exact c.begun.runScript_append script [.commit]

/-- The content of the connection is of no matter. -/
theorem IsAutocommit.of_content (hc : c.IsAutocommit) (content : Content) :
    IsAutocommit { c with content } := ⟨hc.saved, hc.dirty⟩

/-- What has been written is noted in transactions only, so autocommit is to be in none. -/
theorem IsTidy.isAutocommit_iff (hc : c.IsTidy) : c.IsAutocommit ↔ c.inTransaction = false := by
  constructor
  · intro hauto
    rw [inTransaction, hauto.saved]
    rfl
  · intro hout
    refine ⟨Option.not_isSome_iff_eq_none.mp (Bool.eq_false_iff.mp hout), ?_⟩
    cases hdirty : c.dirty with
    | false => rfl
    | true =>
        rw [hc hdirty] at hout
        cases hout

/-- A statement outside of transactions leaves a connection in none as it was but for the content.
-/
theorem IsAutocommit.run (hc : c.IsAutocommit) {s : Statement} (hs : s.isTransactional = false) :
    Yields (fun result => result.1 = { c with content := result.1.content }) (c.run s) := by
  have houtside : c.inTransaction = false := by
    rw [inTransaction, hc.saved]
    rfl
  rw [c.run_eq hs]
  refine Yields.map (Q := fun _ => True) (fun _ _ => trivial) ?_
  rintro ⟨content, count⟩ -
  rw [houtside, Bool.false_and, ← hc.dirty]

/-- The same statement in a transaction does the same to the content. -/
theorem run_inTransaction (start : Content) (dirty : Bool) {s : Statement}
    (hs : s.isTransactional = false) :
    ∃ dirty' : Connection × Nat → Bool, ({ c with saved := some start, dirty } : Connection).run s
      = (c.run s).map fun result =>
        ({ result.1 with saved := some start, dirty := dirty' result }, result.2) := by
  rw [run_eq _ hs, run_eq _ hs]
  cases (if c.readOnly then c.content.runReadOnly s else c.content.run s) with
  | error fault => exact ⟨fun _ => false, rfl⟩
  | ok result =>
      exact ⟨fun _ => dirty || s.overwrites result.2 || result.1 != c.content, rfl⟩

/-- So do statements one after another, which fail where they fail outside of it. -/
theorem runScript_inTransaction (hc : c.IsAutocommit) {script : Script}
    (hscript : ∀ s ∈ script, s.isTransactional = false) (start : Content) (dirty : Bool) :
    ∃ dirty', ({ c with saved := some start, dirty } : Connection).runScript script
        = ({ (c.runScript script).1 with saved := some start, dirty := dirty' },
          (c.runScript script).2) ∧
      (c.runScript script).1 = { c with content := (c.runScript script).1.content } := by
  -- The contents inside and outside are the same before every statement; what is noted differs.
  induction script generalizing c dirty with
  | nil => exact ⟨dirty, rfl, rfl⟩
  | cons s script ih =>
      obtain ⟨hs, hrest⟩ := List.forall_mem_cons.mp hscript
      obtain ⟨dirty', hinside⟩ := run_inTransaction (c := c) start dirty hs
      have houtside := hc.run hs
      rw [runScript_cons, runScript_cons, hinside]
      cases hrun : c.run s with
      | error fault => exact ⟨dirty, rfl, rfl⟩
      | ok result =>
          obtain ⟨next, count⟩ := result
          have hnext : next = { c with content := next.content } := houtside _ hrun
          have hauto : next.IsAutocommit := by
            rw [hnext]
            exact hc.of_content _
          obtain ⟨last, hlast, hsame⟩ := ih hauto hrest (dirty' (next, count))
          refine ⟨last, hlast, ?_⟩
          show (next.runScript script).1 = _
          rw [hsame, hnext]

/-! ## What is given up -/

/-- Until it ends, a transaction keeps what it is going to leave if it is given up. -/
theorem abandon_run {start : Content} (hsaved : c.saved = some start) {s : Statement}
    (hs : s.endsTransaction = false) :
    Yields (fun result => result.1.saved = some start ∧ result.1.abandon = c.abandon)
      (c.run s) := by
  by_cases htransactional : s.isTransactional = true
  · -- In a transaction another one cannot begin.
    obtain ⟨location, readOnly, journal, content, _ | saved, dirty⟩ := c
    · cases hsaved
    · cases s with
      | «begin» => exact .error _
      | commit | rollback => cases hs
      | _ => cases htransactional
  · rw [c.run_eq (Bool.eq_false_iff.mpr htransactional)]
    refine Yields.map (Q := fun _ => True) (fun _ _ => trivial) ?_
    rintro ⟨content, count⟩ -
    refine ⟨hsaved, ?_⟩
    unfold abandon
    simp only [hsaved]

/-- A script that does not end its transaction leaves nothing behind when that is given up. -/
theorem abandon_runScript {start : Content} (hsaved : c.saved = some start) {script : Script}
    (hscript : ∀ s ∈ script, s.endsTransaction = false) :
    (c.runScript script).1.saved = some start ∧ (c.runScript script).1.abandon = c.abandon := by
  induction script generalizing c with
  | nil => exact ⟨hsaved, rfl⟩
  | cons s script ih =>
      obtain ⟨hs, hrest⟩ := List.forall_mem_cons.mp hscript
      have hfirst := abandon_run hsaved hs
      rw [runScript_cons]
      cases hrun : c.run s with
      | error fault => exact ⟨hsaved, rfl⟩
      | ok result =>
          obtain ⟨hsaved', habandon⟩ := hfirst result hrun
          obtain ⟨hlast, hrest'⟩ := ih hsaved' hrest
          exact ⟨hlast, hrest'.trans habandon⟩

/-- A connection in no transaction has nothing to give up. -/
theorem IsAutocommit.with_none (hc : c.IsAutocommit) :
    ({ c with saved := none, dirty := false } : Connection) = c := by
  rw [← hc.saved, ← hc.dirty]

/-- A transaction that is given up at its start is as if there had been none. -/
theorem IsAutocommit.abandon_begun (hc : c.IsAutocommit) : c.begun.abandon = c := hc.with_none

/-- An open transaction can be committed. -/
theorem runScript_commit {start : Content} (hsaved : c.saved = some start) :
    c.runScript [.commit] = ({ c with saved := none, dirty := false }, none) := by
  obtain ⟨location, readOnly, journal, content, _ | saved, dirty⟩ := c
  · cases hsaved
  · rfl

/-- If a script that does not end its transaction fails as one, giving that up leaves nothing
behind. -/
theorem IsAutocommit.abandon_of_fault (hc : c.IsAutocommit) {script : Script}
    (hscript : ∀ s ∈ script, s.endsTransaction = false) {last : Connection} {fault : Fault}
    (h : c.runScript script.asTransaction = (last, some fault)) : last.abandon = c := by
  rw [runScript_asTransaction hc.saved] at h
  obtain ⟨hsaved, habandon⟩ := abandon_runScript (c := c.begun) rfl hscript
  rcases hrun : c.begun.runScript script with ⟨mid, _ | fault'⟩
  · -- The transaction is still open, so that it is not the commit that has failed.
    rw [hrun] at h hsaved
    have hcommit := runScript_commit hsaved
    rw [show mid.runScript [.commit] = _ from h] at hcommit
    cases hcommit
  · rw [hrun] at h habandon
    cases h
    exact habandon.trans hc.abandon_begun

/-- Statements that leave transactions alone come to the same in a transaction of their own and
without it; if one of them fails, giving up the transaction leaves nothing of them. -/
theorem IsAutocommit.runScript_transaction (hc : c.IsAutocommit) {script : Script}
    (hscript : ∀ s ∈ script, s.isTransactional = false) :
    match c.runScript script with
    | (last, none) => c.runScript script.asTransaction = (last, none)
    | (_, some fault) =>
        ∃ last, c.runScript script.asTransaction = (last, some fault) ∧ last.abandon = c := by
  obtain ⟨dirty, hinside, hsame⟩ := runScript_inTransaction hc hscript c.content false
  have hbegun : c.begun.runScript script = _ := hinside
  have htransaction := runScript_asTransaction hc.saved script
  rw [hbegun] at htransaction
  rcases hrun : c.runScript script with ⟨last, _ | fault⟩
  · rw [hrun] at hsame htransaction
    have hlast : last = { c with content := last.content } := hsame
    have hauto : last.IsAutocommit := by
      rw [hlast]
      exact hc.of_content _
    have hcommit : ({ last with saved := some c.content, dirty } : Connection).runScript [.commit]
        = ({ last with saved := none, dirty := false }, none) := runScript_commit rfl
    exact (htransaction.trans hcommit).trans (congrArg (·, none) hauto.with_none)
  · rw [hrun] at htransaction
    have hends : ∀ s ∈ script, s.endsTransaction = false := by
      intro s hs
      exact s.endsTransaction_of_isTransactional (hscript s hs)
    exact ⟨_, htransaction, hc.abandon_of_fault hends htransaction⟩

end

end Connection

/-! ## Programs and scripts -/

namespace Db

section

variable (files : List (String × StoredFile)) (c : Connection) (borrows : Nat)

/-- A script on an open connection. -/
theorem exec_runScript (blame : Fault → StoreError) (script : Script) :
    (runScript blame script).exec ⟨files, some c, borrows⟩ = match c.runScript script with
      | (last, none) => (.ok (), ⟨files, some last, borrows⟩)
      | (last, some fault) => (.error (.error (blame fault)), ⟨files, some last, borrows⟩) := by
  unfold runScript changeConnection
  rw [exec_bind, exec_bind, exec_askConnection]
  rcases c.runScript script with ⟨last, _ | fault⟩ <;> rfl

/-- Statements for the elements of a list, one after another, are a script. -/
theorem exec_forM_runStatement {α : Type} (blame : Fault → StoreError) (statement : α → Statement)
    (as : List α) :
    (as.forM fun a => discard (runStatement blame (statement a))).exec ⟨files, some c, borrows⟩
      = (runScript blame (as.map statement)).exec ⟨files, some c, borrows⟩ := by
  induction as generalizing c with
  | nil => rfl
  | cons a as ih =>
      show (do discard (runStatement blame (statement a)); _ : Db Unit).exec _ = _
      rw [exec_bind, exec_discard, exec_runStatement, exec_runScript, List.map_cons,
        Connection.runScript_cons]
      rcases c.run (statement a) with fault | ⟨next, count⟩
      · rfl
      · exact (ih next).trans (exec_runScript ..)

variable {c} {body : Db Unit} (script : Script)

/-- Outside of a transaction, a body that does what a script does is run between `BEGIN` and
`COMMIT`. If one of the statements fails, the transaction that is open then is given up. -/
theorem exec_transaction_script (hc : c.saved = none)
    (hbody : ∀ c : Connection, body.exec ⟨files, some c, borrows⟩
      = (runScript Fault.asTransaction script).exec ⟨files, some c, borrows⟩) :
    (transaction body).exec ⟨files, some c, borrows⟩
      = match c.runScript script.asTransaction with
        | (last, none) => (.ok (), ⟨files, some last, borrows⟩)
        | (last, some fault) =>
            (.error (.error fault.asTransaction), ⟨files, some last.abandon, borrows⟩) := by
  unfold transaction
  extract_lets rollback
  have hrollback (failure : Failure) (c : Connection) :
      (do rollback; throw failure : Db Unit).exec ⟨files, some c, borrows⟩
        = (.error failure, ⟨files, some c.abandon, borrows⟩) := by
    obtain ⟨location, readOnly, journal, content, _ | saved, dirty⟩ := c <;> rfl
  rw [exec_bind, exec_discard, exec_runStatement, c.run_begin hc]
  show (tryCatch (do body; discard (runStatement Fault.asTransaction .commit))
    fun failure => do rollback; throw failure).exec ⟨files, some c.begun, borrows⟩ = _
  rw [exec_tryCatch, exec_bind, hbody, exec_runScript, Connection.runScript_asTransaction hc]
  rcases c.begun.runScript script with ⟨last, _ | fault⟩
  · -- A commit fails if the script has ended the transaction; then there is nothing to give up.
    simp only
    rw [exec_discard, exec_runStatement, Connection.runScript_cons]
    rcases last.run .commit with fault | ⟨next, count⟩
    · exact hrollback _ last
    · rfl
  · exact hrollback _ last

/-- So it is while the connection is in use. -/
theorem exec_withConnection_script (hc : c.saved = none)
    (hbody : ∀ (c : Connection) (borrows : Nat), body.exec ⟨files, some c, borrows⟩
      = (runScript Fault.asTransaction script).exec ⟨files, some c, borrows⟩) :
    (withConnection (transaction body)).exec ⟨files, some c, borrows⟩
      = match c.runScript script.asTransaction with
        | (last, none) => (.ok (), ⟨files, some last, borrows⟩)
        | (last, some fault) =>
            (.error (.error fault.asTransaction), ⟨files, some last.abandon, borrows⟩) := by
  rw [exec_withConnection,
    exec_transaction_script files (borrows + 1) script hc fun c => hbody c (borrows + 1)]
  rcases c.runScript script.asTransaction with ⟨last, _ | fault⟩ <;> rfl

end

end Db

/-! ## Inserts -/

/-- If a connection is open it is in no transaction. -/
def Database.IsAutocommit (db : Database) : Prop :=
  ∀ c, db.connection = some c → c.IsAutocommit

/-- Nothing is open in memory at first. -/
theorem Database.isAutocommit_inMemory : Database.inMemory.IsAutocommit := by
  rintro c ⟨⟩
  exact ⟨rfl, rfl⟩

variable {Column Entity : Type}

/-- The statements that insert entities. -/
def Table.inserts (t : Table Column Entity) (entities : List Entity) (replace : Bool) : Script :=
  entities.map fun e => t.insert e (if replace then .replace else .ignore)

/-- If entities cannot be inserted, this is for one of them after those before it have been. -/
theorem Table.exists_of_inserts_fault (t : Table Column Entity) {entities : List Entity}
    {replace : Bool} {c last : Connection} {fault : Fault}
    (h : c.runScript (t.inserts entities replace) = (last, some fault)) :
    ∃ earlier e later, entities = earlier ++ e :: later ∧
      c.runScript (t.inserts earlier replace) = (last, none) ∧
      last.run (t.insert e (if replace then .replace else .ignore)) = .error fault := by
  obtain ⟨done, s, rest, hsplit, hdone, hfault⟩ := Connection.exists_of_runScript_fault h
  obtain ⟨earlier, others, rfl, rfl, hothers⟩ := List.map_eq_append_iff.mp hsplit
  obtain ⟨e, later, rfl, rfl, rfl⟩ := List.map_eq_cons_iff.mp hothers
  exact ⟨earlier, e, later, rfl, hdone, hfault⟩

/-- Outside of a transaction there is nothing to note. -/
theorem Connection.IsAutocommit.withContent {c : Connection} (hc : c.IsAutocommit)
    (content : Content) : c.withContent content = { c with content } := by
  have hdirty : (c.inTransaction && (c.dirty || content != c.content)) = c.dirty := by
    rw [Connection.inTransaction, hc.saved, hc.dirty]
    rfl
  unfold Connection.withContent
  rw [hdirty]

/-- In no transaction, the creation of a table changes nothing but for that table. -/
theorem Connection.IsAutocommit.yields_create {c : Connection} (hc : c.IsAutocommit)
    (t : Table Column Entity) :
    Yields (fun result => ∃ content, c.content.Creates t.name content ∧
      result.1 = { c with content }) (c.run t.create) := by
  intro result hresult
  obtain ⟨content, hcontent, -, hnext⟩ := c.yields_create t result hresult
  exact ⟨content, hcontent, hnext.trans (hc.withContent content)⟩

/-- An insert creates its table and then runs its statements, or none of them. -/
theorem Db.exec_insert {c : Connection} (hc : c.IsAutocommit) (files : List (String × StoredFile))
    (borrows : Nat) (t : Table Column Entity) (entities : List Entity) (replace : Bool) :
    (insert t entities replace).exec ⟨files, some c, borrows⟩ = match c.run t.create with
      | .error fault => (.error (.error fault.asStatement), ⟨files, some c, borrows⟩)
      | .ok (next, _) => match next.runScript (t.inserts entities replace) with
        | (last, none) => (.ok (), ⟨files, some last, borrows⟩)
        | (_, some fault) =>
            (.error (.error fault.asTransaction), ⟨files, some next, borrows⟩) := by
  unfold insert
  extract_lets policy
  rw [exec_bind, exec_createTable]
  have hcreates := hc.yields_create t
  cases hrun : c.run t.create with
  | error fault => rfl
  | ok result =>
      obtain ⟨content, -, hresult⟩ := hcreates result hrun
      obtain ⟨next, count⟩ := result
      have hnext : next = { c with content } := hresult
      have hauto : next.IsAutocommit := hnext ▸ hc.of_content content
      have hinserts : ∀ s ∈ t.inserts entities replace, s.isTransactional = false := by
        intro s hs
        obtain ⟨e, -, rfl⟩ := List.mem_map.mp hs
        rfl
      have htransaction := hauto.runScript_transaction hinserts
      have hexec := exec_withConnection_script files borrows (t.inserts entities replace)
        hauto.saved fun c borrows =>
          exec_forM_runStatement files c borrows Fault.asTransaction (t.insert · policy) entities
      rcases hscript : next.runScript (t.inserts entities replace) with ⟨last, _ | fault⟩
      · rw [hscript] at htransaction
        rw [htransaction] at hexec
        simp only [hscript]
        exact hexec
      · rw [hscript] at htransaction
        obtain ⟨last', hlast, habandon⟩ := htransaction
        simp only [hlast, habandon] at hexec
        simp only [hscript]
        exact hexec

/-- Inserting entities into a database in no transaction is all or nothing.  If it succeeds it has
created the table and inserted every entity, one after another.  If it fails the table cannot be
created, and nothing has changed; or the statement of some entity fails after those of the entities
before it, and nothing has changed but for the table, which may be new and is empty then. -/
theorem Db.insert_all_or_none {db : Database} (hdb : db.IsAutocommit) (t : Table Column Entity)
    (entities : List Entity) (replace : Bool) :
    (∀ after, (insert t entities replace).exec db = (.ok (), after) →
      ∃ c last, db.connection = some c ∧
        c.runScript (t.create :: t.inserts entities replace) = (last, none) ∧
        after = { db with connection := some last }) ∧
    ∀ failure after, (insert t entities replace).exec db = (.error failure, after) →
      ((createTable t).exec db = (.error failure, db) ∧ after = db) ∨
      ∃ c content, db.connection = some c ∧ c.content.Creates t.name content ∧
        (createTable t).exec db = (.ok (), after) ∧
        after = { db with connection := some { c with content } } ∧
        ∃ earlier e later last fault, entities = earlier ++ e :: later ∧
          c.runScript (t.create :: t.inserts earlier replace) = (last, none) ∧
          last.run (t.insert e (if replace then .replace else .ignore)) = .error fault ∧
          failure = .error (.transaction fault.message) := by
  obtain ⟨files, _ | c, borrows⟩ := db
  · -- Without a connection the table cannot be created.
    constructor
    · rintro after ⟨⟩
    · rintro failure after ⟨⟩
      exact .inl ⟨rfl, rfl⟩
  have hc : c.IsAutocommit := hdb c rfl
  have hcreates := hc.yields_create t
  rw [exec_insert hc, exec_createTable]
  cases hrun : c.run t.create with
  | error fault =>
      constructor
      · rintro after ⟨⟩
      · rintro failure after ⟨⟩
        exact .inl ⟨rfl, rfl⟩
  | ok result =>
      obtain ⟨content, hcontent, hresult⟩ := hcreates result hrun
      obtain ⟨next, count⟩ := result
      have hnext : next = { c with content } := hresult
      have hcons (script : Script) : c.runScript (t.create :: script) = next.runScript script := by
        rw [Connection.runScript_cons, hrun]
      rcases hscript : next.runScript (t.inserts entities replace) with ⟨last, _ | fault⟩
      · simp only [hscript]
        constructor
        · rintro after ⟨⟩
          exact ⟨c, last, rfl, (hcons _).trans hscript, rfl⟩
        · rintro failure after ⟨⟩
      · simp only [hscript]
        constructor
        · rintro after ⟨⟩
        · rintro failure after ⟨⟩
          obtain ⟨earlier, e, later, hentities, hearlier, hfault⟩ :=
            t.exists_of_inserts_fault hscript
          refine .inr ⟨c, content, rfl, hcontent, rfl, ?_, earlier, e, later, last, fault,
            hentities, (hcons _).trans hearlier, hfault, rfl⟩
          rw [hnext]

/-- A statement on a connection in memory in no transaction. -/
theorem Connection.run_inMemory (content : Content) {s : Statement}
    (hs : s.isTransactional = false) :
    ({ inMemory with content } : Connection).run s
      = (content.run s).map fun result => ({ inMemory with content := result.1 }, result.2) :=
  run_eq _ hs

/-- Users cannot all be inserted if a text of one of them cannot be written down. -/
theorem Connection.runScript_inserts_users {content : Content} {us : List User}
    (h : content.table? "users" = some (usersTable us)) {vs : List User} (replace : Bool)
    (hvs : vs.any User.hasZero) :
    (({ inMemory with content } : Connection).runScript (users.inserts vs replace)).2.isSome := by
  induction vs generalizing content us with
  | nil => cases hvs
  | cons v vs ih =>
      show (runScript _ (_ :: users.inserts vs replace)).2.isSome
      rw [runScript_cons, run_inMemory _ rfl, Content.run_insert_users h]
      cases hzero : v.hasZero with
      | true => rfl
      | false =>
          rw [List.any_cons, hzero] at hvs
          refine ih (Content.table?_withTable (sameName_iff.mpr rfl) ?_) hvs
          rw [h]
          rfl

/-- One user. -/
def annContent : Content :=
  { Content.empty with tables := [usersTable [⟨1, "Ann", none, none⟩]] }

/-- A database in memory with that user. -/
def annDatabase : Database :=
  { Database.inMemory with connection := some { Connection.inMemory with content := annContent } }

/-- Another user of that id, and one whose name cannot be written down. -/
def beaAndZero : List User := [⟨1, "Bea", none, none⟩, ⟨2, "\x00", none, none⟩]

/-- The first one takes the place of the user there, and the second one fails: nothing is changed.
-/
theorem Db.insert_all_or_none_replacing :
    annDatabase.IsAutocommit ∧ ∃ detail, (insert users beaAndZero true).exec annDatabase
      = (.error (.error (.transaction detail)), annDatabase) := by
  have hauto : annDatabase.IsAutocommit := by
    rintro c ⟨⟩
    exact ⟨rfl, rfl⟩
  have htable : annContent.table? "users" = some (usersTable [⟨1, "Ann", none, none⟩]) :=
    List.find?_cons_of_pos (sameName_iff.mpr rfl)
  have hrun : ({ Connection.inMemory with content := annContent } : Connection).run users.create
      = .ok ({ Connection.inMemory with content := annContent }, 0) := by
    rw [Connection.run_inMemory _ rfl, Content.run_create_users, htable]
    rfl
  have hcreate : (createTable users).exec annDatabase = (.ok (), annDatabase) := by
    show (createTable users).exec ⟨_, some _, _⟩ = _
    rw [exec_createTable, hrun]
    rfl
  refine ⟨hauto, ?_⟩
  obtain ⟨hok, herror⟩ := insert_all_or_none hauto users beaAndZero true
  rcases hexec : (insert users beaAndZero true).exec annDatabase with ⟨failure | _, after⟩
  · rcases herror failure after hexec with ⟨hrefused, -⟩ |
      ⟨c, content, -, -, hcreated, -, earlier, e, later, last, fault, -, -, -, rfl⟩
    · rw [hcreate] at hrefused
      cases hrefused
    · rw [hcreate] at hcreated
      cases hcreated
      exact ⟨fault.message, rfl⟩
  · obtain ⟨c, last, ⟨⟩, hscript, -⟩ := hok after hexec
    have hzero : beaAndZero.any User.hasZero := by simp [beaAndZero, User.hasZero]
    have hfault := Connection.runScript_inserts_users htable true hzero
    rw [Connection.runScript_cons, hrun] at hscript
    rw [show Connection.runScript _ _ = _ from hscript] at hfault
    cases hfault

/-! ## Scripts as transactions -/

/-- Running a script as a transaction on a database in no transaction executes `BEGIN`, the
statements and `COMMIT`.  If one of these fails, the transaction that is open then is given up; so
if the script does not end its transaction itself, nothing has changed. -/
theorem Db.executeTransaction_spec {db : Database} (hdb : db.IsAutocommit) (script : Script) :
    (executeTransaction script).exec db = (match script.toSql, db.connection with
      | .error e, _ => (.error (.error (.ofQuery e)), db)
      | .ok _, none => (.error (.error .notOpen), db)
      | .ok _, some c => match c.runScript script.asTransaction with
        | (last, none) => (.ok (), { db with connection := some last })
        | (last, some fault) => (.error (.error (.transaction fault.message)),
            { db with connection := some last.abandon })) ∧
    ((∀ s ∈ script, s.endsTransaction = false) →
      ∀ failure after, (executeTransaction script).exec db = (.error failure, after) →
        after = db) := by
  unfold executeTransaction
  rw [exec_bind, exec_discard]
  cases script.toSql with
  | error e =>
      refine ⟨rfl, fun _ => ?_⟩
      rintro failure after ⟨⟩
      rfl
  | ok text =>
      obtain ⟨files, _ | c, borrows⟩ := db
      · refine ⟨rfl, fun _ => ?_⟩
        rintro failure after ⟨⟩
        rfl
      · have hc : c.IsAutocommit := hdb c rfl
        have hexec := exec_withConnection_script files borrows script hc.saved fun _ _ => rfl
        refine ⟨hexec, fun hscript => ?_⟩
        show ∀ failure after,
          (withConnection (transaction (runScript Fault.asTransaction script))).exec
            ⟨files, some c, borrows⟩ = _ → _
        rw [hexec]
        rcases hrun : c.runScript script.asTransaction with ⟨last, _ | fault⟩
        · rintro failure after ⟨⟩
        · rintro failure after ⟨⟩
          rw [hc.abandon_of_fault hscript hrun]

/-- A script that sets the version and then fails has not. -/
theorem Db.executeTransaction_spec_undone :
    let script : Script := [.setUserVersion 1, .unreadable "THIS IS NOT SQL;"]
    (∀ s ∈ script, s.endsTransaction = false) ∧
      ∃ failure, (executeTransaction script).exec .inMemory = (.error failure, .inMemory) := by
  intro script
  have hends : ∀ s ∈ script, s.endsTransaction = false := by decide
  obtain ⟨-, hsame⟩ := executeTransaction_spec Database.isAutocommit_inMemory script
  have hfails : ((executeTransaction script).exec .inMemory).1.toOption = none := by
    decide +kernel
  refine ⟨hends, ?_⟩
  rcases hexec : (executeTransaction script).exec .inMemory with ⟨failure | _, after⟩
  · rw [hsame hends failure after hexec]
    exact ⟨failure, rfl⟩
  · rw [hexec] at hfails
    cases hfails

/-- A script that sets the version, commits that and then fails has set the version. -/
theorem Db.executeTransaction_keeps_committed :
    let script : Script := [.setUserVersion 1, .commit, .unreadable "THIS IS NOT SQL;"]
    let done := (executeTransaction script).exec .inMemory
    Database.inMemory.IsAutocommit ∧ done.1.toOption = none ∧ done.2 ≠ .inMemory ∧
      done.2.connection.map (·.content.userVersion) = some 1 := by
  intro script done
  refine ⟨Database.isAutocommit_inMemory, ?_, ?_, ?_⟩
  · decide +kernel
  · decide +kernel
  · decide +kernel

end SqlStore
