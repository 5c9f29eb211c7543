/-
# Loads under a limit

A limit leaves out the rows behind the first so many, and changes neither the others nor their
order.  The count is written as it is, so that one that is no signed integer is refused when the
statement runs.  A load of one row asks for a limit of one in place of the limit that is there; its
row is the first of the others if they are taken in the same order then.

* `Reading.rows_withLimit` : the rows under a limit are those of an answer, cut;
* `Db.loads_limitTo` : a limit on a query that has none;
* `Connection.determines_usersById` : the order of ids leaves no choice;
* `Db.loadOne_of_load` : the first row, by any faithful reading, and what becomes of a limit that is
  there.
-/
import SqlStore.Proofs.Database.Loading

namespace SqlStore

variable {α β ε : Type}

/-- The query over a table with a limit in place of the one that it has. -/
def SelectQuery.withLimit {Column Entity : Type} {t : Table Column Entity} (limit : Option UInt64)
    (q : SelectQuery t) : SelectQuery t :=
  { q with filters := { q.filters with limit } }

/-! ## Rows under a limit -/

namespace Reading

variable {read : Reading} {c : Connection} {q : Query} {cut : List Cursor}

/-- The rows of a query, of whose text it matters only whether there is one. -/
theorem rows_eq (read : Reading) (c : Connection) (q : Query) : read.rows c q = do
    (q.toSql.map fun _ => ()).mapError .ofQuery
    return (← (read c q).mapError Fault.asStatement).cursors := by
  unfold rows
  cases q.toSql <;> cases read c q <;> rfl

/-- Rows are there if there is a text, and an answer to it. -/
theorem rows_eq_ok (h : read.rows c q = .ok cut) :
    ∃ text answer, q.toSql = .ok text ∧ read c q = .ok answer ∧ answer.cursors = cut := by
  unfold rows at h
  cases htext : q.toSql with
  | error e =>
      rw [htext] at h
      cases h
  | ok text =>
      cases hanswer : read c q with
      | error fault =>
          rw [htext, hanswer] at h
          cases h
      | ok answer =>
          rw [htext, hanswer] at h
          cases h
          exact ⟨text, answer, rfl, rfl, rfl⟩

/-- The rows of an answer that is cut are its rows, cut. -/
theorem rows_withLimit {text : String} {answer : ResultSet} {limit : Option UInt64}
    (htext : q.toSql = .ok text) (hanswer : read c (q.withLimit limit) = answer.upTo limit) :
    read.rows c (q.withLimit limit)
      = (limited limit answer.cursors).mapError Fault.asStatement := by
  rw [rows_eq, Query.toSql_withLimit, htext, hanswer]
  show (do return (← (answer.upTo limit).mapError Fault.asStatement).cursors) = _
  unfold ResultSet.cursors ResultSet.upTo
  rw [limited_map]
  cases limited limit answer.rows <;> rfl

end Reading

/-- The first rows of a list, so many as a count says if it is a signed integer. -/
def firstRows (count : UInt64) (rows : List α) : Except StoreError (List α) :=
  if count < 0x8000000000000000 then .ok (rows.take count.toNat)
  else .error (.step "datatype mismatch")

theorem firstRows_map (count : UInt64) (f : α → β) (as : List α) :
    (firstRows count as).map (List.map f) = firstRows count (as.map f) := by
  unfold firstRows
  split
  · exact congrArg Except.ok List.map_take
  · rfl

/-- A limit on rows that have none leaves the first of them. -/
theorem Connection.rows_limitTo {c : Connection} {q : Query} {shown : List Cursor}
    (hlimit : q.limit = none) (hshown : c.rows q = .ok shown) (count : UInt64) :
    c.rows (q.withLimit (some count)) = firstRows count shown := by
  have hread : Reading.rows read c q = .ok shown := hshown
  obtain ⟨text, answer, htext, hanswer, rfl⟩ := Reading.rows_eq_ok hread
  have hnone : q.withLimit none = q := hlimit ▸ q.withLimit_limit
  have hcut : c.read (q.withLimit (some count)) = answer.upTo (some count) := by
    rw [read_withLimit, hnone, hanswer]
    rfl
  have hrows : c.rows (q.withLimit (some count)) = _ := Reading.rows_withLimit htext hcut
  rw [hrows]
  unfold firstRows limited
  by_cases hcount : count < 0x8000000000000000
  · simp only [hcount, if_true]
    rfl
  · simp only [hcount, if_false]
    rfl

/-- A limit other than zero keeps the first row. -/
theorem take_one_of_limited {limit : Option UInt64} {shown cut : List α}
    (h : limited limit shown = .ok cut) (hzero : limit ≠ some 0) :
    shown.take 1 = cut.take 1 := by
  cases limit with
  | none =>
      cases h
      rfl
  | some n =>
      have hn : n.toNat ≠ 0 := fun hn => hzero (congrArg some (UInt64.toNat_inj.mp hn))
      unfold limited at h
      dsimp only at h
      split at h
      · cases h
        rw [List.take_take, Nat.min_eq_left (Nat.one_le_iff_ne_zero.mpr hn)]
      · cases h

namespace Reading

variable {read : Reading} {c : Connection} {q : Query} {cut : List Cursor}

/-- Of rows that are taken in the same order, the first is the first under any limit but zero. -/
theorem SameOrder.rows_one (h : read.SameOrder c q (some 1)) (hcut : read.rows c q = .ok cut)
    (hzero : q.limit ≠ some 0) : read.rows c (q.withLimit (some 1)) = .ok (cut.take 1) := by
  obtain ⟨text, answer, htext, hanswer, rfl⟩ := rows_eq_ok hcut
  obtain ⟨whole | whole, hall, hone⟩ := h
  · cases hanswer.symm.trans hall
  · have hlimited : limited q.limit whole.cursors = .ok answer.cursors := by
      have hupTo : whole.upTo q.limit = .ok answer := hall.symm.trans hanswer
      unfold ResultSet.upTo at hupTo
      obtain ⟨rows, hrows, hpair⟩ := bind_eq_ok_iff.mp hupTo
      cases hpair
      unfold ResultSet.cursors
      rw [limited_map, hrows]
      rfl
    rw [← take_one_of_limited hlimited hzero]
    exact rows_withLimit htext hone

/-- The row under a limit of one is the first of those of an answer that the query allows without
its limit. -/
theorem Faithful.rows_one (hread : read.Faithful) (hcut : read.rows c q = .ok cut) :
    ∃ shown, c.Allows (q.withLimit none) shown ∧
      read.rows c (q.withLimit (some 1)) = .ok (shown.cursors.take 1) := by
  obtain ⟨text, answer, htext, hanswer, -⟩ := rows_eq_ok hcut
  obtain ⟨whole, hallows, hone⟩ := hread.exists_upTo hanswer (some 1)
  exact ⟨whole, hallows, rows_withLimit htext hone⟩

/-- A limit of zero leaves no row. -/
theorem Faithful.rows_of_zero (hread : read.Faithful) (hcut : read.rows c q = .ok cut)
    (hzero : q.limit = some 0) : cut = [] := by
  obtain ⟨text, answer, htext, hanswer, rfl⟩ := rows_eq_ok hcut
  obtain ⟨whole, -, hnone⟩ := hread.exists_upTo hanswer (some 0)
  rw [← hzero, q.withLimit_limit, hanswer, hzero] at hnone
  cases hnone
  rfl

end Reading

/-! ## Users in the order of their ids -/

/-- The order of ids tells users apart, so that every faithful reading shows them alike. -/
theorem Connection.determines_usersById {c : Connection} {us : List User}
    (htable : c.content.table? "users" = some (usersTable us))
    (hascending : us.Pairwise fun u v => u.userId < v.userId) :
    c.Determines usersById.query := by
  intro source asked hplan
  cases (Content.selectPlan_users htable).symm.trans hplan
  refine ⟨rfl, ?_⟩
  rw [Content.passing_users]
  have hless : (us.map User.cells).Pairwise fun a b =>
      orderRows usersShown.ordering a b = .lt := by
    rw [List.pairwise_map]
    exact hascending.imp Content.orderRows_cells
  apply List.Pairwise.forall_of_forall_of_flip
  · intro a _ _
    rfl
  · refine hless.imp fun h heq => ?_
    cases h.symm.trans heq
  · refine hless.imp fun h heq => ?_
    cases h.symm.trans (Std.OrientedCmp.eq_comm.mp heq)

/-! ## Loads -/

/-- What is made of the first elements of a list is the first of what is made of all. -/
theorem mapM_take {f : α → Except ε β} {as : List α} {bs : List β} (h : as.mapM f = .ok bs)
    (n : Nat) : (as.take n).mapM f = .ok (bs.take n) := by
  induction as generalizing bs n with
  | nil =>
      cases h
      rw [List.take_nil]
      exact congrArg Except.ok List.take_nil.symm
  | cons a as ih =>
      rw [List.mapM_cons] at h
      cases hhead : f a with
      | error e =>
          rw [hhead] at h
          cases h
      | ok b =>
          cases htail : as.mapM f with
          | error e =>
              rw [hhead, htail] at h
              cases h
          | ok rest =>
              rw [hhead, htail] at h
              cases h
              cases n with
              | zero => rfl
              | succ n =>
                  rw [List.take_succ_cons, List.take_succ_cons, List.mapM_cons, hhead, ih htail]
                  rfl

/-- A strict load that succeeds has decoded every row. -/
theorem strictly_eq_ok {reader : RowReader α} {answer : Except StoreError (List Cursor)}
    {as : List α} (h : strictly reader answer = .ok as) :
    ∃ shown, answer = .ok shown ∧ shown.mapM (Cursor.read reader) = .ok as := by
  unfold strictly at h
  cases answer with
  | error e => cases h
  | ok shown =>
      refine ⟨shown, rfl, ?_⟩
      cases hread : shown.mapM (Cursor.read reader) with
      | error e =>
          simp only [hread] at h
          cases h
      | ok bs =>
          simp only [hread] at h
          cases h
          rfl

/-- So it decodes the first of them as well. -/
theorem strictly_firstRows {reader : RowReader α} {shown : List Cursor} {as : List α}
    (h : shown.mapM (Cursor.read reader) = .ok as) (count : UInt64) :
    strictly reader (firstRows count shown) = (firstRows count as).mapError .error := by
  unfold firstRows
  split
  · simp only [strictly, mapM_take h]
    rfl
  · rfl

namespace Db

/-- Rows are shown on an open connection. -/
theorem exists_connection_of_forEachRow {q : Query} {body : Cursor → Db α} {db : Database}
    {as : List α} (h : ((forEachRow q body).exec db).1 = .ok as) :
    ∃ c, db.connection = some c := by
  unfold forEachRow at h
  rw [exec_bind, exec_discard] at h
  cases htext : q.toSql with
  | error e =>
      rw [htext] at h
      cases h
  | ok text =>
      rw [htext] at h
      exact exists_connection_of_ok h

variable {Column Entity : Type} {t : Table Column Entity}

/-- A load that succeeds has its rows from the connection that it leaves, and under another limit it
has them from there as well. -/
theorem exec_loadBy_of_ok {read : Reading} {q : SelectQuery t} {db after : Database}
    {rows : List Entity} (h : (loadBy read q).exec db = (.ok rows, after)) :
    ∃ c, after.connection = some c ∧ strictly t.decode (read.rows c q.query) = .ok rows ∧
      ∀ limit, (loadBy read (q.withLimit limit)).exec db
        = (strictly t.decode (read.rows c (q.query.withLimit limit)), after) := by
  obtain ⟨files, _ | c, borrows⟩ := db
  · cases h
  rcases exec_createTable_cases (c := c) files borrows t with ⟨e, hcreate⟩ |
    ⟨content, -, -, hcreate⟩
  · unfold loadBy at h
    rw [exec_bind, hcreate] at h
    cases h
  · -- The creation does not look at the query, so that it ends in the same way under another limit.
    have hload (q : SelectQuery t) : (loadBy read q).exec ⟨files, some c, borrows⟩
        = (strictly t.decode (read.rows (c.withContent content) q.query),
          ⟨files, some (c.withContent content), borrows⟩) := by
      unfold loadBy
      rw [exec_bind, hcreate]
      exact exec_decodeBy files (c.withContent content) borrows q.query read t.decode
    rw [hload] at h
    injection h with hrows hafter
    subst hafter
    exact ⟨c.withContent content, rfl, hrows, fun limit => hload _⟩

/-- A load with a mapping of every row. -/
theorem exec_loadMapped_map (files : List (String × StoredFile)) (c : Connection) (borrows : Nat)
    (q : Query) (f : Cursor → α) :
    (loadMapped (fun row => pure (some (f row))) q).exec ⟨files, some c, borrows⟩
      = (((c.rows q).map (List.map f)).mapError .error, ⟨files, some c, borrows⟩) := by
  have hmapped := exec_loadMapped files c borrows q fun row => some (f row)
  rw [hmapped]
  cases c.rows q with
  | error e => rfl
  | ok rows =>
      simp only [List.filterMap_eq_map']
      rfl

/-- A limit on a load that has none leaves the first of the entities. -/
theorem exec_load_limitTo {q : SelectQuery t} {db after : Database} {rows : List Entity}
    (hlimit : q.filters.limit = none) (h : (load q).exec db = (.ok rows, after)) (count : UInt64) :
    (load (q.limitTo count)).exec db = ((firstRows count rows).mapError .error, after) := by
  have hby : (loadBy Connection.read q).exec db = (.ok rows, after) := h
  obtain ⟨c, -, hrows, hload⟩ := exec_loadBy_of_ok hby
  obtain ⟨shown, hshown, hdecoded⟩ := strictly_eq_ok hrows
  have hquery : q.query.limit = none := hlimit
  have hcut := Connection.rows_limitTo hquery hshown count
  refine (hload (some count)).trans ?_
  show (strictly t.decode (c.rows (q.query.withLimit (some count))), after) = _
  rw [hcut, strictly_firstRows hdecoded]

/-- The load of one row, of a query whose rows can be loaded. -/
theorem exec_loadOneBy_of_ok {read : Reading} {q : SelectQuery t} {db after : Database}
    {rows : List Entity} (h : (loadBy read q).exec db = (.ok rows, after)) :
    ∃ c cut, after.connection = some c ∧ read.rows c q.query = .ok cut ∧
      cut.mapM (Cursor.read t.decode) = .ok rows ∧ (loadOneBy read q).exec db
        = ((strictly t.decode (read.rows c (q.query.withLimit (some 1)))).map List.head?,
          after) := by
  obtain ⟨c, hopen, hrows, hload⟩ := exec_loadBy_of_ok h
  obtain ⟨cut, hcut, hdecoded⟩ := strictly_eq_ok hrows
  refine ⟨c, cut, hopen, hcut, hdecoded, ?_⟩
  have hlimit : (loadBy read (q.limitTo 1)).exec db = _ := hload (some 1)
  unfold loadOneBy
  rw [exec_bind, hlimit]
  cases strictly t.decode (read.rows c (q.query.withLimit (some 1))) <;> rfl

/-! ## Three users -/

/-- Users in the order of their ids. -/
def threeUsers : List User :=
  [⟨1, "Ann", some 30, none⟩, ⟨2, "Bea", none, some "B"⟩, ⟨3, "Cleo", some 20, none⟩]

/-- A connection in memory to the table of them. -/
def threeUsersOpen : Connection :=
  { Connection.inMemory with content := ⟨[usersTable threeUsers], [], 0⟩ }

/-- A database with that connection. -/
def withThreeUsers : Database := { Database.empty with connection := some threeUsersOpen }

theorem table?_threeUsers :
    threeUsersOpen.content.table? "users" = some (usersTable threeUsers) := by
  decide +kernel

theorem rows_threeUsers : threeUsersOpen.rows usersById.query
    = .ok (ResultSet.cursors ⟨users.columnNames, threeUsers.map User.cells⟩) := by
  have hread : threeUsersOpen.read usersById.query
      = .ok ⟨users.columnNames, threeUsers.map User.cells⟩ :=
    Content.select_users table?_threeUsers (by decide)
  unfold Connection.rows
  rw [hread]
  rfl

theorem exec_createTable_threeUsers :
    (createTable users).exec withThreeUsers = (.ok (), withThreeUsers) := by
  apply Prod.ext
  · apply eq_ok_of_toOption
    decide +kernel
  · decide +kernel

/-- All of them can be loaded. -/
theorem exec_load_threeUsers :
    (load usersById).exec withThreeUsers = (.ok threeUsers, withThreeUsers) := by
  unfold load
  rw [exec_bind, exec_createTable_threeUsers]
  refine (exec_loadRows ..).trans ?_
  rw [rows_threeUsers]
  rfl

/-! ## Limits are prefixes -/

/-- A limit on a query that has none leaves the first rows of those that the query shows, and so of
what a load of them returns; the database is left as it is without the limit.  A count that is no
signed integer is refused. -/
theorem loads_limitTo (t : Table Column Entity) (count : UInt64) :
    (∀ (c : Connection) (q : Query) (shown : List Cursor), q.limit = none →
      c.rows q = .ok shown → c.rows (q.withLimit (some count)) = firstRows count shown) ∧
    (∀ (q : SelectQuery t) (db after : Database) (rows : List Entity), q.filters.limit = none →
      (load q).exec db = (.ok rows, after) →
      (load (q.limitTo count)).exec db = ((firstRows count rows).mapError .error, after)) ∧
    (∀ {α : Type} (reader : RowReader α) (q : Query) (db after : Database) (rows : List α),
      q.limit = none → (loadRows reader q).exec db = (.ok rows, after) →
      (loadRows reader (q.withLimit (some count))).exec db
        = ((firstRows count rows).mapError .error, after)) ∧
    ∀ {α : Type} (f : Cursor → α) (q : JoinQuery t) (db after : Database) (rows : List α),
      q.statement.limit = none →
      (loadJoinWith q fun row => pure (some (f row))).exec db = (.ok rows, after) →
      (loadJoinWith (q.limitTo count) fun row => pure (some (f row))).exec db
        = ((firstRows count rows).mapError .error, after) := by
  refine ⟨fun c q shown hlimit hshown => Connection.rows_limitTo hlimit hshown count,
    fun q db after rows hlimit h => exec_load_limitTo hlimit h count, ?_, ?_⟩
  · intro α reader q db after rows hlimit h
    obtain ⟨c, hopen⟩ := exists_connection_of_forEachRow (congrArg Prod.fst h)
    obtain ⟨files, _, borrows⟩ := db
    cases hopen
    rw [exec_loadRows] at h ⊢
    injection h with hrows hafter
    subst hafter
    obtain ⟨shown, hshown, hdecoded⟩ := strictly_eq_ok hrows
    rw [Connection.rows_limitTo hlimit hshown, strictly_firstRows hdecoded]
  · intro α f q db after rows hlimit h
    obtain ⟨all, hall⟩ := exec_bind_ok db (congrArg Prod.fst h)
    obtain ⟨c, hopen⟩ := exists_connection_of_forEachRow hall
    obtain ⟨files, _, borrows⟩ := db
    cases hopen
    unfold loadJoinWith at h ⊢
    rw [exec_loadMapped_map] at h ⊢
    injection h with hrows hafter
    subst hafter
    have hquery : q.query.limit = none := hlimit
    cases hshown : c.rows q.query with
    | error e =>
        rw [hshown] at hrows
        cases hrows
    | ok shown =>
        rw [hshown] at hrows
        cases hrows
        have hcut : c.rows (q.limitTo count).query = firstRows count shown :=
          Connection.rows_limitTo hquery hshown count
        rw [hcut, firstRows_map]

/-- A prefix of three users, and a count that is too large. -/
theorem loads_limitTo_three :
    (load (usersById.limitTo 2)).exec withThreeUsers
        = (.ok [⟨1, "Ann", some 30, none⟩, ⟨2, "Bea", none, some "B"⟩], withThreeUsers) ∧
      (load (usersById.limitTo 0x8000000000000000)).exec withThreeUsers
        = (.error (.error (.step "datatype mismatch")), withThreeUsers) := by
  have hlimited (count : UInt64) :=
    (loads_limitTo users count).2.1 usersById _ _ _ rfl exec_load_threeUsers
  exact ⟨hlimited 2, hlimited 0x8000000000000000⟩

/-- The three users can be loaded, but not with a limit that no signed integer reaches. -/
theorem load_limitTo_fails :
    ((load usersById).exec withThreeUsers).1 = .ok threeUsers ∧
      ((load (usersById.limitTo 0x8000000000000000)).exec withThreeUsers).1
        = .error (.error (.step "datatype mismatch")) := by
  rw [exec_load_limitTo rfl exec_load_threeUsers, exec_load_threeUsers]
  exact ⟨rfl, rfl⟩

/-! ## The load of one row -/

/-- The load of one row leaves the database that a load leaves that succeeds.  It decodes the first
row of an answer that the query allows without its limit.  If the limit that is there is not zero,
and rows are taken in the same order under a limit of one, or the ordering leaves no choice, that is
the first entity of the load.  Under a limit of zero the load has none. -/
theorem loadOne_of_load {read : Reading} (hread : read.Faithful) {q : SelectQuery t}
    {db after : Database} {rows : List Entity} (h : (loadBy read q).exec db = (.ok rows, after)) :
    ((loadOneBy read q).exec db).2 = after ∧ (q.filters.limit = some 0 → rows = []) ∧
      ∃ c shown, after.connection = some c ∧ c.Allows (q.withLimit none).query shown ∧
        ((loadOneBy read q).exec db).1
          = (strictly t.decode (.ok (shown.cursors.take 1))).map List.head? ∧
        (q.filters.limit ≠ some 0 →
          read.SameOrder c q.query (some 1) ∨ c.Determines q.query →
          ((loadOneBy read q).exec db).1 = .ok rows.head?) := by
  obtain ⟨c, cut, hopen, hcut, hdecoded, hone⟩ := exec_loadOneBy_of_ok h
  obtain ⟨shown, hallows, hfirst⟩ := hread.rows_one hcut
  rw [hone]
  refine ⟨rfl, ?_, c, shown, hopen, hallows, ?_, ?_⟩
  · intro hzero
    have hempty : cut = [] := hread.rows_of_zero hcut hzero
    rw [hempty] at hdecoded
    cases hdecoded
    rfl
  · rw [hfirst]
  · intro hzero horder
    -- The first row is there under the limit, too, and it has been decoded.
    have hsame : read.SameOrder c q.query (some 1) :=
      horder.elim id fun hdetermines => hdetermines.sameOrder hread (some 1)
    have hdecodes : strictly t.decode (.ok (cut.take 1)) = .ok (rows.take 1) := by
      simp only [strictly, mapM_take hdecoded]
      rfl
    rw [hsame.rows_one hcut hzero, hdecodes]
    show Except.ok (rows.take 1).head? = .ok rows.head?
    rw [List.head?_take, if_neg Nat.one_ne_zero]

/-- The first of three users. -/
theorem loadOne_of_load_three :
    (loadBy Connection.read usersById).exec withThreeUsers = (.ok threeUsers, withThreeUsers) ∧
      (loadOneBy Connection.read usersById).exec withThreeUsers
        = (.ok (some ⟨1, "Ann", some 30, none⟩), withThreeUsers) := by
  obtain ⟨hafter, -, c, -, hopen, -, -, hfirst⟩ :=
    loadOne_of_load Connection.faithful_read exec_load_threeUsers
  have hdetermines : c.Determines usersById.query := by
    cases hopen
    exact Connection.determines_usersById table?_threeUsers (by decide)
  exact ⟨exec_load_threeUsers, Prod.ext (hfirst nofun (.inr hdetermines)) hafter⟩

/-- A limit of zero leaves nothing to load, but one user can be loaded. -/
theorem loadOne_of_limit_zero :
    ((load (usersById.limitTo 0)).exec withThreeUsers).1 = .ok [] ∧
      ((loadOne (usersById.limitTo 0)).exec withThreeUsers).1
        = .ok (some ⟨1, "Ann", some 30, none⟩) := by
  have hload : (load (usersById.limitTo 0)).exec withThreeUsers = (.ok [], withThreeUsers) :=
    exec_load_limitTo rfl exec_load_threeUsers 0
  have hone : (load ((usersById.limitTo 0).limitTo 1)).exec withThreeUsers
      = (.ok [⟨1, "Ann", some 30, none⟩], withThreeUsers) :=
    exec_load_limitTo rfl exec_load_threeUsers 1
  unfold loadOne
  rw [hload, exec_bind, hone]
  exact ⟨rfl, rfl⟩

end Db

/-! ## Rows in another order under a limit -/

/-- The rows that a query takes from a source, from its end unless there is a limit. -/
def Source.turned (s : Source) (p : Projection) : List (List Cell) :=
  Source.arranged { s with rows := if p.limit.isSome then s.rows else s.rows.reverse } p

/-- A query allows that, since it orders rows by its keys only. -/
theorem Source.allows_turned (s : Source) (p : Projection) : s.Allows p (s.turned p) := by
  have hallows := Source.allows_arranged
    { s with rows := if p.limit.isSome then s.rows else s.rows.reverse } p
  refine ⟨hallows.perm.trans ?_, hallows.ordered⟩
  apply List.Perm.filter
  show (if p.limit.isSome then s.rows else s.rows.reverse).Perm s.rows
  cases p.limit.isSome with
  | true => exact List.Perm.refl _
  | false => exact s.rows.reverse_perm

/-- A reading that takes rows so. -/
def Reading.turned : Reading := fun c q => do
  let (source, asked) ← c.plan q
  source.present asked (source.turned asked)

theorem Reading.faithful_turned : turned.Faithful := by
  intro c q
  unfold turned
  cases c.plan q with
  | error fault => rfl
  | ok plan => exact ⟨_, plan.1.allows_turned plan.2, rfl⟩

namespace Db

/-- Where users come from that nothing orders. -/
theorem plan_allUsers {c : Connection} {us : List User}
    (h : c.content.table? "users" = some (usersTable us)) (limit : Option UInt64) :
    c.plan ((SelectQuery.all users).withLimit limit).query
      = .ok ((usersTable us).source, { usersShown with ordering := [], limit }) := by
  show c.content.table "users" >>= _ = _
  rw [Content.table_users h]
  rfl

/-- The load of one row need not be the first of a load if nothing orders the rows: by that reading
three users come from the last to the first, but under a limit of one the first comes. -/
theorem loadOneBy_turned :
    (loadBy Reading.turned (SelectQuery.all users)).exec withThreeUsers
        = (.ok threeUsers.reverse, withThreeUsers) ∧
      (loadOneBy Reading.turned (SelectQuery.all users)).exec withThreeUsers
        = (.ok threeUsers.head?, withThreeUsers) := by
  let taken (limit : Option UInt64) : List User :=
    if limit.isSome then threeUsers else threeUsers.reverse
  let answer (limit : Option UInt64) : ResultSet :=
    ⟨users.columnNames, (taken limit).map User.cells⟩
  have hread (limit : Option UInt64) :
      Reading.turned threeUsersOpen ((SelectQuery.all users).query.withLimit limit)
        = (answer limit).upTo limit := by
    have hturned : Source.turned (usersTable threeUsers).source
        { usersShown with ordering := [], limit } = (taken limit).map User.cells := by
      refine (Source.arranged_plain _ rfl).trans ?_
      cases limit <;> rfl
    unfold Reading.turned
    refine (congrArg (· >>= _) (plan_allUsers table?_threeUsers limit)).trans ?_
    show Source.present _ _ (Source.turned _ _) = _
    rw [hturned]
    cases limit <;> rfl
  have hload (limit : Option UInt64) :
      (loadBy Reading.turned ((SelectQuery.all users).withLimit limit)).exec withThreeUsers
        = (strictly users.decode
            ((limited limit (answer limit).cursors).mapError Fault.asStatement),
          withThreeUsers) := by
    unfold loadBy
    rw [exec_bind, exec_createTable_threeUsers]
    refine (exec_decodeBy ..).trans ?_
    have hrows := Reading.rows_withLimit (q := (SelectQuery.all users).query) rfl (hread limit)
    exact congrArg (fun rows => (strictly users.decode rows, withThreeUsers)) hrows
  refine ⟨hload none, ?_⟩
  have hone : (loadBy Reading.turned ((SelectQuery.all users).limitTo 1)).exec withThreeUsers = _ :=
    hload (some 1)
  unfold loadOneBy
  rw [exec_bind, hone]
  rfl

end Db

end SqlStore
