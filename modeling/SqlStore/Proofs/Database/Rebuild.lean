/-
# Rebuilding a table in a transaction

The script that copies columns of a table into an empty one, drops the table and gives its name to
the other one is run as a transaction.  It rebuilds the table with a row for each row, or it leaves
the database as it was, at whichever statement it fails.

* `Db.exec_executeTransaction` : statements as a transaction, where none is open;
* `Db.copyAndRename_rebuilds` : the script;
* `Db.copyAndRename_numbers_rows` : a number of a row that is neither copied nor the default.
-/
import SqlStore.Proofs.Database.Transaction
import SqlStore.Proofs.Store.Rebuild

namespace SqlStore

namespace Connection

variable {c last : Connection}

/-- A script that succeeds begins with a statement that does. -/
theorem runScript_cons_eq_ok {s : Statement} {script : Script}
    (h : c.runScript (s :: script) = (last, none)) :
    ∃ next count, c.run s = .ok (next, count) ∧ next.runScript script = (last, none) := by
  rw [runScript_cons] at h
  cases hrun : c.run s with
  | error fault =>
      rw [hrun] at h
      cases h
  | ok result =>
      rw [hrun] at h
      exact ⟨result.1, result.2, rfl, h⟩

/-- Outside of transactions a statement changes the content at most. -/
theorem IsAutocommit.yields_run_content (hc : c.IsAutocommit) {s : Statement}
    (hs : s.isTransactional = false) :
    Yields (fun result => ∃ content, c.content.run s = .ok (content, result.2) ∧
      result.1 = { c with content }) (c.run s) := by
  intro result hresult
  obtain ⟨content, dirty, hcontent, hnext⟩ := c.yields_run_content hs result hresult
  have hsame := hc.run hs result hresult
  refine ⟨content, hcontent, ?_⟩
  rw [hsame, hnext]

/-- So statements that succeed one after another do so on the content. -/
theorem IsAutocommit.run_of_runScript_cons (hc : c.IsAutocommit) {s : Statement} {script : Script}
    (hs : s.isTransactional = false) (h : c.runScript (s :: script) = (last, none)) :
    ∃ content count, c.content.run s = .ok (content, count) ∧
      ({ c with content } : Connection).IsAutocommit ∧
      ({ c with content } : Connection).runScript script = (last, none) := by
  obtain ⟨next, count, hrun, hrest⟩ := runScript_cons_eq_ok h
  obtain ⟨content, hcontent, rfl⟩ := hc.yields_run_content hs _ hrun
  exact ⟨content, count, hcontent, hc.of_content content, hrest⟩

end Connection

/-- Where no transaction is open, statements that leave transactions alone are run as one with the
result that they have without it, but if one of them fails nothing has changed. -/
theorem Db.exec_executeTransaction {c : Connection} (hc : c.IsAutocommit)
    (files : List (String × StoredFile)) (borrows : Nat) {script : Script} {text : String}
    (htext : script.toSql = .ok text) (hscript : ∀ s ∈ script, s.isTransactional = false) :
    (executeTransaction script).exec ⟨files, some c, borrows⟩ = match c.runScript script with
      | (last, none) => (.ok (), ⟨files, some last, borrows⟩)
      | (_, some fault) => (.error (.error fault.asTransaction), ⟨files, some c, borrows⟩) := by
  have htransaction := hc.runScript_transaction hscript
  have hexec : (withConnection (transaction (runScript Fault.asTransaction script))).exec
      ⟨files, some c, borrows⟩ = _ :=
    exec_withConnection_script files borrows script hc.saved fun _ _ => rfl
  unfold executeTransaction
  rw [exec_bind, exec_discard, htext]
  refine hexec.trans ?_
  rcases hrun : c.runScript script with ⟨last, _ | fault⟩
  · rw [hrun] at htransaction
    rw [htransaction]
  · rw [hrun] at htransaction
    obtain ⟨last', hlast, habandon⟩ := htransaction
    simp only [hlast, habandon]

/-- The script leaves transactions alone. -/
theorem isTransactional_copyAndRename {table temp : String} {newColumns oldColumns : List String} :
    ∀ s ∈ copyAndRename table temp newColumns oldColumns, s.isTransactional = false := by
  simp [copyAndRename, Statement.isTransactional]

/-- In a database in no transaction, columns of a table are copied into an empty one of another
name, which takes the place of the table.  If the script succeeds the table has been rebuilt, and
if it fails nothing has changed. -/
theorem Db.copyAndRename_rebuilds {db : Database} {c : Connection} (hdb : db.IsAutocommit)
    (hopen : db.connection = some c) {table temp : String} {source target : StoredTable}
    (hsource : c.content.table? table = some source) (htarget : c.content.table? temp = some target)
    (hempty : target.rows = []) (hne : sameName table temp = false)
    {newColumns oldColumns : List String} {new old : List Nat}
    (hnew : newColumns.mapM target.position = .ok new)
    (hold : oldColumns.mapM source.position = .ok old)
    (hlength : newColumns.length = oldColumns.length) (hdistinct : new.Nodup) :
    let rebuild := executeTransaction (copyAndRename table temp newColumns oldColumns)
    (∀ after, rebuild.exec db = (.ok (), after) → ∃ content,
      after = { db with connection := some { c with content } } ∧
        c.content.Rebuilds table temp source target new old content) ∧
    ∀ failure after, rebuild.exec db = (.error failure, after) → after = db := by
  intro rebuild
  obtain ⟨files, _, borrows⟩ := db
  cases hopen
  have hc : c.IsAutocommit := hdb c rfl
  have hexec : rebuild.exec ⟨files, some c, borrows⟩ = _ :=
    exec_executeTransaction hc files borrows rfl isTransactional_copyAndRename
  rw [hexec]
  rcases hrun : c.runScript (copyAndRename table temp newColumns oldColumns)
    with ⟨last, _ | fault⟩
  · refine ⟨?_, fun failure after h => by cases h⟩
    rintro after ⟨⟩
    -- The three statements succeed one after another.
    obtain ⟨copied, _, hcopy, hauto, hrun⟩ := hc.run_of_runScript_cons rfl hrun
    obtain ⟨dropped, _, hdrop, hauto, hrun⟩ := hauto.run_of_runScript_cons rfl hrun
    obtain ⟨content, _, hrename, -, hrun⟩ := hauto.run_of_runScript_cons rfl hrun
    cases hrun
    obtain ⟨_, hcopied, ⟨⟩⟩ := map_eq_ok_iff.mp hcopy
    obtain ⟨_, hdropped, ⟨⟩⟩ := map_eq_ok_iff.mp hdrop
    obtain ⟨_, hrenamed, ⟨⟩⟩ := map_eq_ok_iff.mp hrename
    exact ⟨_, rfl, Content.rebuilds_of_run hsource htarget hempty hne hnew hold hlength
      hdistinct hcopied hdropped hrenamed⟩
  · refine ⟨fun after h => (by cases h), ?_⟩
    rintro _ after ⟨⟩
    rfl

/-- A column that is the number of the row, one that is copied to and one with a default. -/
def numberedTable : StoredTable where
  name := "b"
  columns := [⟨"id", .integer, false, .null⟩, ⟨"x", .real, false, .null⟩,
    ⟨"note", .text, false, .integer 7⟩]
  idColumn := some 0
  counting := false
  uniqueKeys := []
  rows := []
  lastId := 0

/-- A table of one column, one of whose rows holds nothing. -/
def plainTable : StoredTable where
  name := "a"
  columns := [⟨"x", .integer, false, .null⟩]
  idColumn := none
  counting := false
  uniqueKeys := []
  rows := [⟨4, [.integer 5]⟩, ⟨9, [.null]⟩]
  lastId := 0

/-- An empty table whose only column is not to be `NULL`. -/
def strictTable : StoredTable where
  name := "c"
  columns := [⟨"x", .integer, true, .null⟩]
  idColumn := none
  counting := false
  uniqueKeys := []
  rows := []
  lastId := 0

/-- These tables. -/
def threeLayouts : Content :=
  { tables := [plainTable, numberedTable, strictTable], indexes := [], userVersion := 3 }

/-- A database in memory with them. -/
def withThreeLayouts : Database :=
  { Database.inMemory with connection := some { Connection.inMemory with content := threeLayouts } }

/-- The second of them with the rows of the first. -/
def filledTable : StoredTable :=
  { numberedTable with rows :=
      [⟨1, [.integer 1, .real (.ofInt 5), .text "7"]⟩, ⟨2, [.integer 2, .null, .text "7"]⟩] }

/-- What is left when it has taken the place of the first. -/
def rebuiltLayouts : Content :=
  { threeLayouts with tables := [{ filledTable with name := "a" }, strictTable] }

/-- The rows of the first can be copied to a column of another, or not. -/
theorem copyRows_plainTable {name : String} (t : StoredTable) (k : Nat)
    (ht : threeLayouts.table name = .ok t)
    (hk : ["x"].mapM t.position = .ok [k]) :
    threeLayouts.copyRows "a" name ["x"] ["x"]
      = (t.copied [k] [0] plainTable.rows).map threeLayouts.withTable := by
  have hplain : threeLayouts.table "a" = .ok plainTable := by
    apply eq_ok_of_toOption
    decide +kernel
  have hx : ["x"].mapM plainTable.position = .ok [0] := by
    apply eq_ok_of_toOption
    decide +kernel
  exact Content.copyRows_eq hplain ht hk hx rfl (by decide)

/-- A script in memory, where its first statement succeeds. -/
theorem Connection.runScript_inMemory_cons {content next : Content} {count : Nat} {s : Statement}
    (hs : s.isTransactional = false) (h : content.run s = .ok (next, count)) (script : Script) :
    ({ inMemory with content } : Connection).runScript (s :: script)
      = ({ inMemory with content := next } : Connection).runScript script := by
  rw [runScript_cons, run_inMemory _ hs, h]
  rfl

/-- The first table takes the place of the second. -/
theorem runScript_numberedTable :
    ({ Connection.inMemory with content := threeLayouts } : Connection).runScript
        (copyAndRename "a" "b" ["x"] ["x"])
      = ({ Connection.inMemory with content := rebuiltLayouts }, none) := by
  let dropped : Content := { threeLayouts with tables := [filledTable, strictTable] }
  have hcopy : threeLayouts.run (.copyRows "a" "b" ["x"] ["x"])
      = .ok (threeLayouts.withTable filledTable, 0) := by
    show (threeLayouts.copyRows "a" "b" ["x"] ["x"]).map (·, 0) = _
    rw [copyRows_plainTable numberedTable 1]
    all_goals
      apply eq_ok_of_toOption
      decide +kernel
  have hdrop : (threeLayouts.withTable filledTable).run (.dropTable "a") = .ok (dropped, 0) := by
    apply eq_ok_of_toOption
    decide +kernel
  have hrename : dropped.run (.renameTable "b" "a") = .ok (rebuiltLayouts, 0) := by
    apply eq_ok_of_toOption
    decide +kernel
  unfold copyAndRename
  rw [Connection.runScript_inMemory_cons rfl hcopy, Connection.runScript_inMemory_cons rfl hdrop,
    Connection.runScript_inMemory_cons rfl hrename]
  rfl

/-- It cannot take the place of the third. -/
theorem runScript_strictTable :
    ∃ fault, ({ Connection.inMemory with content := threeLayouts } : Connection).runScript
        (copyAndRename "a" "c" ["x"] ["x"])
      = ({ Connection.inMemory with content := threeLayouts }, some fault) := by
  have hcopy : ∃ fault, threeLayouts.run (.copyRows "a" "c" ["x"] ["x"]) = .error fault := by
    apply exists_error_of_toOption
    show ((threeLayouts.copyRows "a" "c" ["x"] ["x"]).map (·, 0)).toOption = _
    rw [copyRows_plainTable strictTable 0]
    · decide +kernel
    all_goals
      apply eq_ok_of_toOption
      decide +kernel
  obtain ⟨fault, hcopy⟩ := hcopy
  refine ⟨fault, ?_⟩
  unfold copyAndRename
  rw [Connection.runScript_cons, Connection.run_inMemory _ rfl, hcopy]
  rfl

theorem isAutocommit_withThreeLayouts : withThreeLayouts.IsAutocommit := by
  rintro c ⟨⟩
  exact ⟨rfl, rfl⟩

/-- The first of these tables gets the layout of the second, but not that of the third. -/
theorem Db.copyAndRename_rebuilds_plain :
    (∃ after content, (executeTransaction (copyAndRename "a" "b" ["x"] ["x"])).exec withThreeLayouts
        = (.ok (), after) ∧
      after.connection = some { Connection.inMemory with content } ∧
      threeLayouts.Rebuilds "a" "b" plainTable numberedTable [1] [0] content) ∧
    ∃ failure, (executeTransaction (copyAndRename "a" "c" ["x"] ["x"])).exec withThreeLayouts
      = (.error failure, withThreeLayouts) := by
  have hplain : threeLayouts.table? "a" = some plainTable := by decide +kernel
  have hx : ["x"].mapM plainTable.position = .ok [0] := by
    apply eq_ok_of_toOption
    decide +kernel
  have hexec (name : String) : (executeTransaction (copyAndRename "a" name ["x"] ["x"])).exec
      withThreeLayouts = _ :=
    exec_executeTransaction (isAutocommit_withThreeLayouts _ rfl) [] 0 rfl
      isTransactional_copyAndRename
  constructor
  · have hnumbered : threeLayouts.table? "b" = some numberedTable := by decide +kernel
    have hk : ["x"].mapM numberedTable.position = .ok [1] := by
      apply eq_ok_of_toOption
      decide +kernel
    obtain ⟨hdone, -⟩ := copyAndRename_rebuilds isAutocommit_withThreeLayouts rfl hplain hnumbered
      rfl (by decide +kernel) hk hx rfl (by decide)
    have hok := hexec "b"
    rw [runScript_numberedTable] at hok
    obtain ⟨content, hafter, hrebuilds⟩ := hdone _ hok
    exact ⟨_, content, hok, congrArg Database.connection hafter, hrebuilds⟩
  · have hstrict : threeLayouts.table? "c" = some strictTable := by decide +kernel
    have hk : ["x"].mapM strictTable.position = .ok [0] := by
      apply eq_ok_of_toOption
      decide +kernel
    obtain ⟨-, hsame⟩ := copyAndRename_rebuilds isAutocommit_withThreeLayouts rfl hplain hstrict
      rfl (by decide +kernel) hk hx rfl (by decide)
    obtain ⟨fault, hrun⟩ := runScript_strictTable
    have hfails := hexec "c"
    rw [hrun] at hfails
    exact ⟨_, hfails.trans (congrArg (Prod.mk _) (hsame _ _ hfails))⟩

/-- Nothing is copied to the number of the rows, whose default is `NULL`; yet it is none in any of
the rows that have been copied. -/
theorem Db.copyAndRename_numbers_rows :
    numberedTable.columns.map (·.default) = [.null, .null, .integer 7] ∧
      ∃ after final, (executeTransaction (copyAndRename "a" "b" ["x"] ["x"])).exec withThreeLayouts
          = (.ok (), after) ∧
        (after.connection.bind fun c => c.content.table? "a") = some final ∧
        final.columns = numberedTable.columns ∧
        final.rows.map (·.cells) = [[.integer 1, .real (.ofInt 5), .text "7"],
          [.integer 2, .null, .text "7"]] := by
  have hexec : (executeTransaction (copyAndRename "a" "b" ["x"] ["x"])).exec withThreeLayouts = _ :=
    exec_executeTransaction (isAutocommit_withThreeLayouts _ rfl) [] 0 rfl
      isTransactional_copyAndRename
  rw [runScript_numberedTable] at hexec
  have hfinal : rebuiltLayouts.table? "a" = some { filledTable with name := "a" } := by
    decide +kernel
  exact ⟨rfl, _, _, hexec, hfinal, rfl, rfl⟩

end SqlStore
