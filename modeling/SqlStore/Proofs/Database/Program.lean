/-
# Running a program on a database

What comes of a program on a database and what it leaves of the database is computed by the rules of
this module, one for every way to build a program.

* `Db.exec` : the result of a program and the database after it;
* `Db.exec_bind`, `Db.exec_tryCatch` : programs made of others;
* `Db.exec_withConnection`, `Db.exec_runStatement` : programs on an open connection;
* `Db.exec_createTable` : the creation of a table;
* `Db.Leads` : what a program makes of its connection if it succeeds, and whether it may fail;
* `Connection.Has`, `Db.Leads.transaction` : the content of the connection in a transaction.
-/
import SqlStore.Database.Change
import SqlStore.Proofs.Store.Version

namespace SqlStore

variable {α β : Type}

namespace Db

/-- The result of a program and the database after it. -/
def exec (program : Db α) (db : Database) : Except Failure α × Database := program.run.run db

section

variable (db : Database)

@[simp] theorem exec_pure (a : α) : (pure a : Db α).exec db = (.ok a, db) := rfl

@[simp] theorem exec_fail (e : StoreError) :
    (fail e : Db α).exec db = (.error (.error e), db) := rfl

@[simp] theorem exec_orInvalid_ok (a : α) : (orInvalid (.ok a)).exec db = (.ok a, db) := rfl

/-- One program after another, unless the first one fails. -/
theorem exec_bind (program : Db α) (next : α → Db β) :
    (program >>= next).exec db = match program.exec db with
      | (.ok a, after) => (next a).exec after
      | (.error failure, after) => (.error failure, after) := by
  show (match program.exec db with
    | (r, after) => (ExceptT.bindCont next r).run after) = _
  rcases program.exec db with ⟨_ | a, after⟩ <;> rfl

/-- A program that succeeds has begun with one that succeeds. -/
theorem exec_bind_ok {program : Db α} {next : α → Db β} {b : β}
    (h : ((program >>= next).exec db).1 = .ok b) : ∃ a, (program.exec db).1 = .ok a := by
  rw [exec_bind] at h
  rcases hexec : program.exec db with ⟨failure | a, after⟩
  · rw [hexec] at h
    cases h
  · exact ⟨a, rfl⟩

/-- A program whose result is not used. -/
theorem exec_discard (program : Db α) :
    (discard program).exec db = ((program.exec db).1.map fun _ => (), (program.exec db).2) := by
  rcases hexec : program.exec db with ⟨r, after⟩
  have hrun : program db = (r, after) := hexec
  show ExceptT.map (fun _ => ()) program db = _
  rw [ExceptT.map, ExceptT.mk]
  simp only [bind, StateT.bind, hrun]
  cases r <;> rfl

/-- A program, and what is done if it fails. -/
theorem exec_tryCatch (program : Db α) (handler : Failure → Db α) :
    (tryCatch program handler).exec db = match program.exec db with
      | (.ok a, after) => (.ok a, after)
      | (.error failure, after) => (handler failure).exec after := by
  rcases hexec : program.exec db with ⟨r, after⟩
  have hrun : program db = (r, after) := hexec
  show ExceptT.tryCatch program handler db = _
  rw [ExceptT.tryCatch, ExceptT.mk]
  simp only [bind, StateT.bind, hrun]
  cases r <;> rfl

/-- A body that gives back what it is handed a form of, for each element of a list. -/
theorem exec_mapM_map {f : β → Db α} {g : α → β}
    (h : ∀ a db, (f (g a)).exec db = (.ok a, db)) (as : List α) :
    ((as.map g).mapM f).exec db = (.ok as, db) := by
  induction as with
  | nil => rfl
  | cons a as ih =>
      rw [List.map_cons, List.mapM_cons, exec_bind, h]
      simp only
      rw [exec_bind, ih]
      rfl

end

section

variable (files : List (String × StoredFile)) (c : Connection) (borrows : Nat)

/-- A body on an open connection. -/
theorem exec_withConnection (body : Db α) :
    (withConnection body).exec ⟨files, some c, borrows⟩
      = ((body.exec ⟨files, some c, borrows + 1⟩).1,
        (body.exec ⟨files, some c, borrows + 1⟩).2.giveBack) := rfl

/-- A body that succeeds has had a connection. -/
theorem exists_connection_of_ok {db : Database} {body : Db α} {a : α}
    (h : ((withConnection body).exec db).1 = .ok a) : ∃ c, db.connection = some c := by
  obtain ⟨files, _ | c, borrows⟩ := db
  · cases h
  · exact ⟨c, rfl⟩

/-- A question to an open connection. -/
theorem exec_askConnection (ask : Connection → Except StoreError α) :
    (askConnection ask).exec ⟨files, some c, borrows⟩
      = ((ask c).mapError Failure.error, ⟨files, some c, borrows⟩) := by
  have hget : (get : Db Database).exec ⟨files, some c, borrows⟩
      = (.ok ⟨files, some c, borrows⟩, ⟨files, some c, borrows⟩) := rfl
  unfold askConnection
  rw [exec_bind, hget]
  simp only
  cases ask c <;> rfl

/-- One statement on an open connection. -/
theorem exec_runStatement (blame : Fault → StoreError) (s : Statement) :
    (runStatement blame s).exec ⟨files, some c, borrows⟩ = match c.run s with
      | .ok (next, count) => (.ok count, ⟨files, some next, borrows⟩)
      | .error fault => (.error (.error (blame fault)), ⟨files, some c, borrows⟩) := by
  unfold runStatement changeConnection
  rw [exec_bind, exec_askConnection]
  cases c.run s <;> rfl

variable {Column Entity : Type}

/-- The creation of a table on an open connection. -/
theorem exec_createTable (t : Table Column Entity) :
    (createTable t).exec ⟨files, some c, borrows⟩ = match c.run t.create with
      | .ok (next, _) => (.ok (), ⟨files, some next, borrows⟩)
      | .error fault => (.error (.error fault.asStatement), ⟨files, some c, borrows⟩) := by
  unfold createTable
  rw [exec_withConnection, exec_discard, exec_runStatement]
  rcases c.run t.create with fault | ⟨next, count⟩ <;> rfl

end

/-! ## What a program makes of the connection -/

/-- On an open connection of the first kind a program fails, if it may, or leaves one of the second
kind. -/
def Leads (mayFail : Prop) (before after : Connection → Prop) (program : Db α) : Prop :=
  ∀ (db : Database) (c : Connection), db.connection = some c → before c →
    match program.exec db with
    | (.ok _, last) => ∃ next, last.connection = some next ∧ after next
    | (.error _, _) => mayFail

section

variable {mayFail : Prop} {P Q R : Connection → Prop} {program : Db α} {next : α → Db β}

theorem leads_pure (a : α) : Leads mayFail P P (pure a) := fun _ c hopen hc => ⟨c, hopen, hc⟩

theorem Leads.bind (hprogram : Leads mayFail P Q program)
    (hnext : ∀ a, Leads mayFail Q R (next a)) : Leads mayFail P R (program >>= next) := by
  intro db c hopen hc
  have hfirst := hprogram db c hopen hc
  rw [exec_bind]
  rcases hexec : program.exec db with ⟨failure | a, mid⟩
  · rw [hexec] at hfirst
    exact hfirst
  · rw [hexec] at hfirst
    obtain ⟨c', hopen', hc'⟩ := hfirst
    exact hnext a mid c' hopen' hc'

theorem Leads.discard (hprogram : Leads mayFail P Q program) :
    Leads mayFail P Q (discard program) := by
  intro db c hopen hc
  have hfirst := hprogram db c hopen hc
  rw [exec_discard]
  rcases hexec : program.exec db with ⟨failure | a, mid⟩
  · rw [hexec] at hfirst
    exact hfirst
  · rw [hexec] at hfirst
    exact hfirst

theorem Leads.withConnection (hprogram : Leads mayFail P Q program) :
    Leads mayFail P Q (withConnection program) := by
  rintro ⟨files, _, borrows⟩ c ⟨⟩ hc
  have hbody := hprogram ⟨files, some c, borrows + 1⟩ c rfl hc
  rw [exec_withConnection]
  rcases hexec : program.exec ⟨files, some c, borrows + 1⟩ with ⟨failure | a, mid⟩
  · rw [hexec] at hbody
    exact hbody
  · rw [hexec] at hbody
    exact hbody

/-- A handler that fails in any case is not needed by a program that succeeds. -/
theorem Leads.tryCatch (hprogram : Leads mayFail P Q program) {handler : Failure → Db α}
    (hhandler : ∀ failure db, ∃ failure' last,
      (handler failure).exec db = (.error failure', last)) :
    Leads mayFail P Q (tryCatch program handler) := by
  intro db c hopen hc
  have hfirst := hprogram db c hopen hc
  rw [exec_tryCatch]
  rcases hexec : program.exec db with ⟨failure | a, mid⟩
  · rw [hexec] at hfirst
    obtain ⟨failure', last, hlast⟩ := hhandler failure mid
    simp only [hlast]
    exact hfirst
  · rw [hexec] at hfirst
    exact hfirst

theorem leads_runStatement {blame : Fault → StoreError} {s : Statement}
    (h : ∀ c, P c → match c.run s with
      | .ok (after, _) => Q after
      | .error _ => mayFail) :
    Leads mayFail P Q (runStatement blame s) := by
  rintro ⟨files, _, borrows⟩ c ⟨⟩ hc
  have hrun := h c hc
  rw [exec_runStatement]
  cases hresult : c.run s with
  | error fault =>
      rw [hresult] at hrun
      exact hrun
  | ok result =>
      rw [hresult] at hrun
      exact ⟨result.1, rfl, hrun⟩

end

end Db

/-! ## Transactions -/

/-- The content is of a kind.  Unless failing is allowed the connection can be written to, and it is
in a transaction or outside of one. -/
def Connection.Has (mayFail : Prop) (inTransaction : Bool) (P : Content → Prop) (c : Connection) :
    Prop :=
  P c.content ∧ (mayFail ∨ c.readOnly = false ∧ c.inTransaction = inTransaction)

section

variable {mayFail : Prop} {inTransaction : Bool} {P Q : Content → Prop}

/-- An ordinary statement runs on the content. -/
theorem Connection.run_of_isOrdinary (c : Connection) {s : Statement} (hs : s.isOrdinary = true) :
    ∃ dirty : Content × Nat → Bool, c.run s
      = (if c.readOnly then c.content.runReadOnly s else c.content.run s).map fun result =>
        ({ c with content := result.1, dirty := dirty result }, result.2) :=
  ⟨_, c.run_eq (s.isTransactional_of_isOrdinary hs)⟩

/-- Where nothing may be written a statement fails or does what it does elsewhere. -/
theorem Content.runReadOnly_cases (c : Content) (s : Statement) :
    (∃ fault, c.runReadOnly s = .error fault) ∨
      ∃ result, c.run s = .ok result ∧ c.runReadOnly s = .ok result := by
  unfold runReadOnly
  cases c.run s with
  | error fault => exact .inl ⟨_, rfl⟩
  | ok result =>
      cases c.writes s with
      | true => exact .inl ⟨_, rfl⟩
      | false => exact .inr ⟨result, rfl, rfl⟩

/-- What an ordinary statement does to the content it does to the connection. -/
theorem Connection.Has.run {c : Connection} (hc : c.Has mayFail inTransaction P) {s : Statement}
    (hs : s.isOrdinary = true)
    (h : ∀ c, P c → match c.run s with
      | .ok (after, _) => Q after
      | .error _ => mayFail) :
    match c.run s with
    | .ok (after, _) => after.Has mayFail inTransaction Q
    | .error _ => mayFail := by
  obtain ⟨hcontent, hready⟩ := hc
  have hafter := h c.content hcontent
  obtain ⟨dirty, hrun⟩ := c.run_of_isOrdinary hs
  rw [hrun]
  cases hreadOnly : c.readOnly with
  | false =>
      rw [hreadOnly] at hready
      cases hresult : c.content.run s with
      | error fault =>
          rw [hresult] at hafter
          exact hafter
      | ok result =>
          rw [hresult] at hafter
          exact ⟨hafter, hready⟩
  | true =>
      have hmay : mayFail := by
        rcases hready with hmay | ⟨hwritable, -⟩
        · exact hmay
        · rw [hreadOnly] at hwritable
          cases hwritable
      rcases c.content.runReadOnly_cases s with ⟨fault, hfault⟩ | ⟨result, hresult, hsame⟩
      · rw [if_pos rfl, hfault]
        exact hmay
      · rw [if_pos rfl, hsame]
        rw [hresult] at hafter
        exact ⟨hafter, .inl hmay⟩

theorem Db.leads_content {blame : Fault → StoreError} {s : Statement} (hs : s.isOrdinary = true)
    (h : ∀ c, P c → match c.run s with
      | .ok (after, _) => Q after
      | .error _ => mayFail) :
    Leads mayFail (Connection.Has mayFail inTransaction P)
      (Connection.Has mayFail inTransaction Q) (runStatement blame s) := by
  apply leads_runStatement
  intro c hc
  exact hc.run hs h

/-- A transaction does what its body does. -/
theorem Db.Leads.transaction {body : Db Unit}
    (hbody : Leads mayFail (Connection.Has mayFail true P) (Connection.Has mayFail true Q) body) :
    Leads mayFail (Connection.Has mayFail false P) (Connection.Has mayFail false Q)
      (transaction body) := by
  have hbegin : Leads mayFail (Connection.Has mayFail false P) (Connection.Has mayFail true P)
      (runStatement Fault.asTransaction .begin) := by
    apply leads_runStatement
    rintro ⟨location, readOnly, journal, content, _ | saved, dirty⟩ ⟨hcontent, hready⟩
    · exact ⟨hcontent, hready.imp_right fun h => ⟨h.1, rfl⟩⟩
    · rcases hready with hmay | ⟨-, ⟨⟩⟩
      exact hmay
  have hcommit : Leads mayFail (Connection.Has mayFail true Q) (Connection.Has mayFail false Q)
      (runStatement Fault.asTransaction .commit) := by
    apply leads_runStatement
    rintro ⟨location, readOnly, journal, content, _ | saved, dirty⟩ ⟨hcontent, hready⟩
    · rcases hready with hmay | ⟨-, ⟨⟩⟩
      exact hmay
    · exact ⟨hcontent, hready.imp_right fun h => ⟨h.1, rfl⟩⟩
  unfold Db.transaction
  extract_lets rollback
  refine hbegin.discard.bind fun _ => ?_
  refine Leads.tryCatch (hbody.bind fun _ => hcommit.discard) ?_
  intro failure db
  rw [exec_bind]
  rcases rollback.exec db with ⟨failure' | _, mid⟩
  · exact ⟨_, _, rfl⟩
  · exact ⟨_, _, rfl⟩

end

end SqlStore
