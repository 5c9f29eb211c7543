/-
# Queries that do not compile

A query does not compile if one of its conditions tests for membership in what is no list of one
kind, or if it is an update that assigns nothing.  Every operation that takes a query refuses it.
Most do so before anything else and leave the database as it is; those that create their table first
have created it by then.

* `Query.Uncompilable`, `Query.refused_iff` : which queries do not compile;
* `Operation`, `Operation.run` : the operations that take a query;
* `Operation.refused` : what they do if it does not compile.
-/
import SqlStore.Proofs.Database.Program
import SqlStore.Proofs.Query.Validity
import SqlStore.Proofs.Store.Version
import SqlStore.Table.Sample

namespace SqlStore

/-! ## Which queries compile -/

/-- The argument of a query is refused, which does not concern a row. -/
def Refused {α : Type} (result : Except QueryError α) : Prop :=
  ∃ e, result = .error e ∧ e.isDecode = false

/-- What is refused as a set of conditions is, is refused if one of these is ill-typed. -/
theorem ConditionSet.refused_iff {set : ConditionSet} {result : Except QueryError String}
    (h : ∀ e, result = .error e ↔ set.toSql = .error e) :
    Refused result ↔ ∃ c ∈ set.leaves, c.IsIllTyped := by
  rw [← set.exists_toSql_eq_error_iff]
  constructor
  · rintro ⟨e, he, -⟩
    exact ⟨e, (h e).mp he⟩
  · rintro ⟨e, he⟩
    exact ⟨e, (h e).mpr he, set.isDecode_of_toSql_eq_error he⟩

namespace Query

/-- The conditions of a query. -/
def conditions : Query → ConditionSet
  | select s => s.filter.conditions
  | update u => u.conditions
  | delete d => d.conditions
  | join j => j.conditions

/-- Whether the query is an update with nothing to assign. -/
def assignsNothing : Query → Bool
  | update u => u.replace.isEmpty
  | _ => false

/-- One of the conditions is ill-typed, or there is nothing to assign. -/
def Uncompilable (q : Query) : Prop :=
  (∃ c ∈ q.conditions.leaves, c.IsIllTyped) ∨ q.assignsNothing = true

/-- A query with something to assign does not compile if one of its conditions is ill-typed. -/
theorem refused_iff_of_assigns {q : Query} (hassigns : q.assignsNothing = false)
    (h : ∀ e, q.toSql = .error e ↔ q.conditions.toSql = .error e) :
    Refused q.toSql ↔ q.Uncompilable := by
  rw [ConditionSet.refused_iff h, Uncompilable, hassigns]
  exact (or_iff_left nofun).symm

/-- The text of a query is refused just when it is one of those that do not compile. -/
theorem refused_iff (q : Query) : Refused q.toSql ↔ q.Uncompilable := by
  cases q with
  | select s => exact refused_iff_of_assigns rfl fun e => s.toSql_eq_error_iff
  | delete d => exact refused_iff_of_assigns rfl fun e => d.toSql_eq_error_iff
  | join j => exact refused_iff_of_assigns rfl fun e => j.toSql_eq_error_iff
  | update u =>
      by_cases hempty : u.replace = []
      · refine iff_of_true ⟨.noAssignments u.table, ?_, rfl⟩ (.inr (List.isEmpty_iff.mpr hempty))
        exact Update.toSql_eq_error_iff.mpr (.inl ⟨hempty, rfl⟩)
      · refine refused_iff_of_assigns (by simpa [assignsNothing] using hempty) fun e => ?_
        exact Update.toSql_eq_error_iff.trans (by simp [hempty, conditions])

end Query

/-! ## Operations that take a query -/

variable {Column Entity : Type} {t : Table Column Entity} {α : Type}

/-- An operation that takes a query, with the type of its result. -/
inductive Operation (t : Table Column Entity) : Type → Type 1
  | load (q : SelectQuery t) : Operation t (List Entity)
  | loadLenient (q : SelectQuery t) : Operation t (List Entity)
  | loadWith {α : Type} (q : SelectQuery t) (mapping : Cursor → Db (Option α)) :
      Operation t (List α)
  | loadOne (q : SelectQuery t) : Operation t (Option Entity)
  | loadOneWith {α : Type} (q : SelectQuery t) (mapping : Cursor → Db (Option α)) :
      Operation t (Option α)
  | loadRows {α : Type} (reader : RowReader α) (q : Query) : Operation t (List α)
  | loadValue (α : Type) [Readable α] (q : Query) : Operation t (Option α)
  | loadJoinWith {α : Type} (q : JoinQuery t) (mapping : Cursor → Db (Option α)) :
      Operation t (List α)
  | update (q : UpdateQuery t) : Operation t Nat
  | delete (q : DeleteQuery t) : Operation t Nat

namespace Operation

/-- What the operation does. -/
def run : Operation t α → Db α
  | load q => Db.load q
  | loadLenient q => Db.loadLenient q
  | loadWith q mapping => Db.loadWith q mapping
  | loadOne q => Db.loadOne q
  | loadOneWith q mapping => Db.loadOneWith q mapping
  | loadRows reader q => Db.loadRows reader q
  | loadValue α q => Db.loadValue α q
  | loadJoinWith q mapping => Db.loadJoinWith q mapping
  | update q => Db.update q
  | delete q => Db.delete q

/-- The query that the operation takes. -/
def query : Operation t α → Query
  | load q | loadLenient q | loadWith q _ | loadOne q | loadOneWith q _ => q.query
  | loadRows _ q | loadValue _ q => q
  | loadJoinWith q _ => q.query
  | update q => .update q.statement
  | delete q => .delete q.statement

/-- Whether the operation creates its table before it looks at the query. -/
def createsFirst : Operation t α → Bool
  | load _ | loadLenient _ | loadWith .. | loadOne _ | loadOneWith .. => true
  | loadRows .. | loadValue .. | loadJoinWith .. | update _ | delete _ => false

end Operation

namespace Db

/-- The rows of a query that does not compile are not looked for. -/
theorem exec_forEachRow_of_error {q : Query} {e : QueryError} (he : q.toSql = .error e)
    (body : Cursor → Db α) (db : Database) :
    (forEachRow q body).exec db = (.error (.error (.ofQuery e)), db) := by
  unfold forEachRow
  rw [he]
  rfl

theorem exec_loadMapped_of_error {q : Query} {e : QueryError} (he : q.toSql = .error e)
    (mapping : Cursor → Db (Option α)) (db : Database) :
    (loadMapped mapping q).exec db = (.error (.error (.ofQuery e)), db) := by
  unfold loadMapped
  rw [exec_bind, exec_forEachRow_of_error he]

end Db

namespace Operation

open Db

/-- An operation that creates nothing first refuses a query before anything else. -/
theorem exec_of_error {op : Operation t α} {e : QueryError} (hcreates : op.createsFirst = false)
    (he : op.query.toSql = .error e) (db : Database) :
    op.run.exec db = (.error (.error (.ofQuery e)), db) := by
  cases op with
  | load | loadLenient | loadWith | loadOne | loadOneWith => cases hcreates
  | loadRows reader q => exact exec_forEachRow_of_error he _ db
  | loadValue α q =>
      show (Db.loadValue α q).exec db = _
      have hquery : q.toSql = .error e := he
      unfold Db.loadValue
      rw [hquery]
      rfl
  | loadJoinWith q mapping => exact exec_loadMapped_of_error he mapping db
  | update q =>
      show (Db.update q).exec db = _
      have hquery : q.statement.toSql = .error e := he
      unfold Db.update
      rw [hquery]
      rfl
  | delete q =>
      show (Db.delete q).exec db = _
      have hquery : q.statement.toSql = .error e := he
      unfold Db.delete
      rw [hquery]
      rfl

/-- A limit changes nothing about whether a query compiles. -/
theorem toSql_limitTo {q : SelectQuery t} {e : QueryError} (he : q.query.toSql = .error e)
    (count : UInt64) : (q.limitTo count).query.toSql = .error e := by
  have hwhere : whereClause q.filters.conditions = .error e := by
    cases hclause : whereClause q.filters.conditions with
    | error e' =>
        have htext : q.query.toSql = .error e' := by
          show Except.bind (whereClause q.filters.conditions) _ = _
          rw [hclause]
          rfl
        rw [← he, htext]
    | ok w =>
        have htext : q.query.toSql.toOption.isSome := by
          show (Except.bind (whereClause q.filters.conditions) _).toOption.isSome
          rw [hclause]
          rfl
        rw [he] at htext
        cases htext
  show Except.bind (whereClause q.filters.conditions) _ = _
  rw [hwhere]
  rfl

/-- An operation that creates its table first does just that and refuses the query then. -/
theorem exec_creates_of_error {op : Operation t α} {e : QueryError}
    (hcreates : op.createsFirst = true) (he : op.query.toSql = .error e) (db : Database) :
    op.run.exec db = (do createTable t; fail (.ofQuery e) : Db α).exec db := by
  have hload (q : SelectQuery t) (he : q.query.toSql = .error e) :
      (Db.load q).exec db = (do createTable t; fail (.ofQuery e) : Db (List Entity)).exec db := by
    unfold Db.load Db.loadRows
    simp only [exec_bind, exec_forEachRow_of_error he, exec_fail]
  have hmapped {β : Type} (q : SelectQuery t) (mapping : Cursor → Db (Option β))
      (he : q.query.toSql = .error e) :
      (Db.loadWith q mapping).exec db
        = (do createTable t; fail (.ofQuery e) : Db (List β)).exec db := by
    unfold Db.loadWith
    simp only [exec_bind, exec_loadMapped_of_error he, exec_fail]
  cases op with
  | loadRows | loadValue | loadJoinWith | update | delete => cases hcreates
  | load q => exact hload q he
  | loadLenient q => exact hmapped q _ he
  | loadWith q mapping => exact hmapped q mapping he
  | loadOne q =>
      show (Db.loadOne q).exec db = _
      unfold Db.loadOne
      rw [exec_bind, hload _ (toSql_limitTo he 1)]
      simp only [exec_bind, exec_fail]
      rcases (createTable t).exec db with ⟨failure | _, after⟩ <;> rfl
  | loadOneWith q mapping =>
      show (Db.loadOneWith q mapping).exec db = _
      unfold Db.loadOneWith
      rw [exec_bind, hmapped _ mapping (toSql_limitTo he 1)]
      simp only [exec_bind, exec_fail]
      rcases (createTable t).exec db with ⟨failure | _, after⟩ <;> rfl

end Operation

/-! ## Creating a table that is there -/

/-- Only an open transaction has written. -/
def Connection.IsTidy (c : Connection) : Prop := c.dirty = true → c.inTransaction = true

/-- Creating a table that is there changes nothing. -/
theorem Content.create_of_table {c : Content} {name : String} (h : (c.table? name).isSome = true)
    (columns : List ColumnDecl) : Yields (· = c) (c.create name columns) := by
  unfold create
  dsimp only
  refine .bind fun _ => .ite (.throw_bind _ _) (.bind fun _ => .ite (.throw_bind _ _) ?_)
  rw [if_pos h]
  exact .ok rfl

/-- The connection with another content; a transaction takes note of it. -/
def Connection.withContent (c : Connection) (content : Content) : Connection :=
  { c with content, dirty := c.inTransaction && (c.dirty || content != c.content) }

/-- The content that is there is none to note. -/
theorem Connection.IsTidy.withContent_self {c : Connection} (hc : c.IsTidy) :
    c.withContent c.content = c := by
  have hdirty : (c.inTransaction && (c.dirty || c.content != c.content)) = c.dirty := by
    rw [bne_self_eq_false, Bool.or_false]
    cases hd : c.dirty with
    | false => exact Bool.and_false _
    | true =>
        rw [hc hd]
        rfl
  unfold withContent
  rw [hdirty]

/-- So it leaves the connection as it is. -/
theorem Connection.run_create_of_table {c : Connection} (hc : c.IsTidy) {name : String}
    (h : (c.content.table? name).isSome = true) (columns : List ColumnDecl) :
    Yields (fun result => result.1 = c) (c.run (.createTable name columns)) := by
  have hcreate : Yields (fun result => result.1 = c.content)
      (c.content.run (.createTable name columns)) :=
    (Content.create_of_table h columns).map fun _ hcontent => hcontent
  rw [c.run_eq rfl]
  refine Yields.map (.ite (Content.yields_runReadOnly_of hcreate) hcreate) ?_
  rintro ⟨content, count⟩ rfl
  have hoverwrites : (Statement.createTable name columns).overwrites count = false := rfl
  simp only [hoverwrites, Bool.or_false]
  exact hc.withContent_self

/-- Creating a table that is there leaves the database as it is. -/
theorem Db.createTable_of_table {db : Database} {c : Connection} (hopen : db.connection = some c)
    (hc : c.IsTidy) (h : (c.content.table? t.name).isSome = true) :
    ((createTable t).exec db).2 = db := by
  obtain ⟨files, connection, borrows⟩ := db
  cases hopen
  rw [exec_createTable]
  have hsame := Connection.run_create_of_table hc h (t.columns.map t.declaration)
  cases hrun : c.run t.create with
  | error fault => rfl
  | ok result =>
      have hnext := hsame result hrun
      simp only [hnext]

/-! ## The refusal -/

/-- An operation refuses a query that does not compile.  It leaves the database as it is, unless it
is one of those that create their table first: they do so, and if the creation succeeds they refuse
the query.  Where the table is there already they leave the database as it is, too. -/
theorem Operation.refused {op : Operation t α} (h : op.query.Uncompilable) (db : Database) :
    ∃ detail,
      (op.createsFirst = false →
        op.run.exec db = (.error (.error (.invalidArgument detail)), db)) ∧
      (op.createsFirst = true →
        op.run.exec db
          = (do Db.createTable t; Db.fail (.invalidArgument detail) : Db α).exec db) ∧
      (∀ c, db.connection = some c → c.IsTidy → (c.content.table? t.name).isSome = true →
        (op.run.exec db).2 = db) := by
  obtain ⟨e, he, hdecode⟩ := op.query.refused_iff.mpr h
  have herror : StoreError.ofQuery e = .invalidArgument e.detail := by
    unfold StoreError.ofQuery
    rw [hdecode]
    rfl
  refine ⟨e.detail, ?_, ?_, ?_⟩
  · intro hcreates
    rw [← herror]
    exact exec_of_error hcreates he db
  · intro hcreates
    rw [← herror]
    exact exec_creates_of_error hcreates he db
  · intro c hopen hc htable
    by_cases hcreates : op.createsFirst = true
    · rw [exec_creates_of_error hcreates he, Db.exec_bind]
      have hsame := Db.createTable_of_table hopen hc htable
      rcases hexec : (Db.createTable t).exec db with ⟨failure | _, after⟩
      · rw [hexec] at hsame
        exact hsame
      · rw [hexec] at hsame
        exact hsame
    · rw [exec_of_error (Bool.eq_false_iff.mpr hcreates) he]

/-- Every user whose id is in a number, which is no list. -/
def usersInNumber : SelectQuery users :=
  (SelectQuery.all users).filter (.single (.on "userID" .inList (some (.integer 1))))

theorem uncompilable_usersInNumber : usersInNumber.query.Uncompilable := by
  refine .inl ⟨.on "userID" .inList (some (.integer 1)), List.mem_singleton.mpr rfl, .inl rfl, ?_⟩
  rintro items ⟨⟩

/-- Loading them from a database without tables is refused, and creates the table. -/
theorem Operation.refused_load_creates :
    usersInNumber.query.Uncompilable ∧
      ((Operation.load usersInNumber).run.exec .inMemory).2 ≠ .inMemory := by
  refine ⟨uncompilable_usersInNumber, fun hsame => ?_⟩
  have htables : (((Operation.load usersInNumber).run.exec .inMemory).2.connection.map
      fun c => c.content.tables.length) = some 1 := by
    decide +kernel
  rw [hsame] at htables
  cases htables

/-- Loading them from a database with the table leaves it as it is, and so does, in any database, an
update that assigns nothing. -/
theorem Operation.refused_load_update :
    let db := ((Db.createTable users).exec .inMemory).2
    ((Operation.load usersInNumber).run.exec db).2 = db ∧
      ∃ detail, (Operation.update (UpdateQuery.new users [])).run.exec .empty
        = (.error (.error (.invalidArgument detail)), .empty) := by
  intro db
  have hload : (Operation.load usersInNumber).query.Uncompilable := uncompilable_usersInNumber
  have hupdate : (Operation.update (UpdateQuery.new users [])).query.Uncompilable := .inr rfl
  constructor
  · obtain ⟨detail, -, -, hsame⟩ := refused hload db
    have htable : db.connection.any fun c =>
        !c.dirty && (c.content.table? "users").isSome := by
      decide +kernel
    cases hopen : db.connection with
    | none =>
        rw [hopen] at htable
        cases htable
    | some c =>
        rw [hopen, Option.any_some, Bool.and_eq_true, Bool.not_eq_true'] at htable
        apply hsame c hopen ?_ htable.2
        intro hdirty
        rw [hdirty] at htable
        cases htable.1
  · obtain ⟨detail, hrefused, -, -⟩ := refused hupdate .empty
    exact ⟨detail, hrefused rfl⟩

end SqlStore
