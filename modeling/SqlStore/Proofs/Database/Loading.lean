/-
# Strict, lenient and mapped loads

The loads of a table differ in what they make of a row that does not decode: the strict load answers
with the error of the first such row, the lenient one leaves such rows out, and so does a mapped
load whose mapping leaves them out.  They create the same table and see the same rows, so they agree
where every row decodes, and they leave the same database.

* `RowReader.Decodes` : a codec that refuses rows, and nothing else, as those of the sample do;
* `Db.forEachRowBy`, `Db.loadBy`, `Db.loadOneBy` : loads by any reading, the library's among them;
* `Connection.rows`, `Db.exec_loadRows`, `Db.exec_loadMapped` : loads on an open connection;
* `Loaded`, `loaded_strictly` : what the strict and the lenient load make of the same rows;
* `Db.loads_agree` : the loads of a table.
-/
import SqlStore.Proofs.Database.Transaction
import SqlStore.Proofs.Store.RowOrder

namespace SqlStore

variable {α β : Type}

/-! ## Codecs -/

namespace RowReader

/-- The reader refuses a row with an error of rows, wherever in the row it starts. -/
def Decodes (reader : RowReader α) : Prop :=
  ∀ (row : Cursor) (e : QueryError), row.read reader = .error e → e.isDecode = true

theorem decodes_pure (a : α) : Decodes (pure a) := by
  rintro row e ⟨⟩

/-- One reader after another. -/
theorem Decodes.bind {reader : RowReader α} {next : α → RowReader β} (h : reader.Decodes)
    (hnext : ∀ a, (next a).Decodes) : (reader >>= next).Decodes := by
  intro row e he
  have hread : row.read (reader >>= next) = match reader.run.run row with
      | (.ok a, rest) => rest.read (next a)
      | (.error e, _) => .error e := by
    show ((match reader.run.run row with
      | (r, rest) => (ExceptT.bindCont next r).run rest).1 : Except QueryError β) = _
    rcases reader.run.run row with ⟨_ | a, rest⟩ <;> rfl
  rw [hread] at he
  rcases hrun : reader.run.run row with ⟨_ | a, rest⟩
  · rw [hrun] at he
    cases he
    exact h row e (congrArg Prod.fst hrun)
  · rw [hrun] at he
    exact hnext a rest e he

/-- A reader for each element of a list. -/
theorem Decodes.mapM {reader : β → RowReader α} {bs : List β} (h : ∀ b ∈ bs, (reader b).Decodes) :
    (bs.mapM reader).Decodes := by
  induction bs with
  | nil => exact decodes_pure []
  | cons b bs ih =>
      obtain ⟨hb, hbs⟩ := List.forall_mem_cons.mp h
      rw [List.mapM_cons]
      exact hb.bind fun _ => (ih hbs).bind fun _ => decodes_pure _

theorem decodes_next (α : Type) [Readable α] : (next α).Decodes := by
  rintro row e ⟨⟩

/-- A value that has to be there and is not is an error of the row. -/
theorem decodes_require (α : Type) [Readable α] : (require α).Decodes := by
  have hget : Decodes (get : RowReader Cursor) := by
    rintro row e ⟨⟩
  unfold require
  refine hget.bind fun c => (decodes_next α).bind fun v => ?_
  cases v with
  | some v => exact decodes_pure v
  | none =>
      rintro row e ⟨⟩
      rfl

end RowReader

open RowReader

theorem ColumnCodec.decodes_required (α : Type) [Readable α] (toValue : α → Value) :
    (required α toValue).read.Decodes := (decodes_require α).bind fun _ => decodes_pure _

theorem ColumnCodec.decodes_optional (α : Type) [Readable α] (toValue : α → Value) :
    (optional α toValue).read.Decodes := (decodes_next α).bind fun _ => decodes_pure _

/-- The codec of a table of plain rows. -/
theorem decodes_rowTable {columns : List (ColumnDecl × ColumnCodec)}
    (h : ∀ c ∈ columns, c.2.read.Decodes) (name : String) (migration : Int32 → Option Script) :
    (rowTable name columns migration).decode.Decodes := Decodes.mapM h

/-- The codecs of the sample. -/
theorem SampleTable.decodes (s : SampleTable) : s.table.decode.Decodes := by
  have hrequired := ColumnCodec.decodes_required
  have hoptional := ColumnCodec.decodes_optional
  cases s with
  | users =>
      refine (decodes_require Int64).bind fun _ => (decodes_require String).bind fun _ => ?_
      exact (decodes_next Int64).bind fun _ => (decodes_next String).bind fun _ => decodes_pure _
  | pets =>
      have hcolumns : ∀ c ∈ petColumns, c.2.read.Decodes := by simp [petColumns, hrequired]
      exact decodes_rowTable hcolumns _ _
  | pairs =>
      have hcolumns : ∀ c ∈ pairColumns, c.2.read.Decodes := by
        simp [pairColumns, hrequired, hoptional]
      exact decodes_rowTable hcolumns _ _
  | items =>
      have hcolumns : ∀ c ∈ itemColumns, c.2.read.Decodes := by
        simp [itemColumns, hrequired, hoptional]
      exact decodes_rowTable hcolumns _ _

/-! ## Rows -/

/-- A reader whose result is changed. -/
theorem Cursor.read_map (f : α → β) (reader : RowReader α) (row : Cursor) :
    row.read (f <$> reader) = (row.read reader).map f := by
  unfold read
  rcases hrun : reader.run.run row with ⟨r, rest⟩
  have hreader : reader row = (r, rest) := hrun
  show (ExceptT.map f reader row).1 = r.map f
  rw [ExceptT.map, ExceptT.mk]
  simp only [bind, StateT.bind, hreader]
  cases r <;> rfl

/-- What a reader makes of rows one after another: all of them are read, or one is refused after
those before it have been read. -/
theorem mapM_read_cases (reader : RowReader α) (rows : List Cursor) :
    (∃ as, rows.mapM (Cursor.read reader) = .ok as ∧ rows.map (Cursor.read reader) = as.map .ok) ∨
    ∃ good row bad e, rows = good ++ row :: bad ∧ (∀ r ∈ good, ∃ a, r.read reader = .ok a) ∧
      row.read reader = .error e ∧ rows.mapM (Cursor.read reader) = .error e := by
  induction rows with
  | nil => exact .inl ⟨[], rfl, rfl⟩
  | cons row rows ih =>
      rw [List.mapM_cons]
      cases hrow : row.read reader with
      | error e => exact .inr ⟨[], row, rows, e, rfl, nofun, hrow, rfl⟩
      | ok a =>
          rcases ih with ⟨as, hall, hmap⟩ | ⟨good, row', bad, e, rfl, hgood, hrow', hfirst⟩
          · refine .inl ⟨a :: as, ?_, ?_⟩
            · rw [hall]
              rfl
            · rw [List.map_cons, hrow, hmap, List.map_cons]
          · refine .inr ⟨row :: good, row', bad, e, rfl, ?_, hrow', ?_⟩
            · exact List.forall_mem_cons.mpr ⟨⟨a, hrow⟩, hgood⟩
            · rw [hfirst]
              rfl

/-- What is decoded of the rows, without those that cannot be. -/
def decoded (reader : RowReader α) (rows : List Cursor) : List α :=
  rows.filterMap fun row => (row.read reader).toOption

/-- Where all can be, it is what is read of them. -/
theorem decoded_of_map {reader : RowReader α} {rows : List Cursor} {as : List α}
    (h : rows.map (Cursor.read reader) = as.map .ok) : decoded reader rows = as := by
  have hread : decoded reader rows = (rows.map (Cursor.read reader)).filterMap Except.toOption := by
    rw [List.filterMap_map]
    rfl
  rw [hread, h, List.filterMap_map]
  exact List.filterMap_some

/-- A strict and a lenient load of what has been answered to a query.  They fail alike if that is no
rows.  If all rows decode both succeed with them; otherwise the strict load fails with the error of
the first that does not, and the lenient one leaves out these. -/
inductive Loaded (reader : RowReader α) :
    Except StoreError (List Cursor) → Except Failure (List α) → Except Failure (List α) → Prop
  | unanswered (e : StoreError) : Loaded reader (.error e) (.error (.error e)) (.error (.error e))
  | all (rows : List Cursor) (h : rows.map (Cursor.read reader) = (decoded reader rows).map .ok) :
      Loaded reader (.ok rows) (.ok (decoded reader rows)) (.ok (decoded reader rows))
  | refused (good : List Cursor) (row : Cursor) (bad : List Cursor) (e : QueryError)
      (hgood : ∀ r ∈ good, ∃ a, r.read reader = .ok a) (hrow : row.read reader = .error e)
      (hstep : reader.Decodes → StoreError.ofQuery e = .step e.detail) :
      Loaded reader (.ok (good ++ row :: bad)) (.error (.error (.ofQuery e)))
        (.ok (decoded reader (good ++ row :: bad)))

/-- The strict load of an answer. -/
def strictly (reader : RowReader α) (answer : Except StoreError (List Cursor)) :
    Except Failure (List α) :=
  match answer with
  | .error e => .error (.error e)
  | .ok rows => (rows.mapM (Cursor.read reader)).mapError fun e => .error (.ofQuery e)

/-- The lenient load of an answer. -/
def leniently (reader : RowReader α) (answer : Except StoreError (List Cursor)) :
    Except Failure (List α) :=
  match answer with
  | .error e => .error (.error e)
  | .ok rows => .ok (decoded reader rows)

/-- These are a strict and a lenient load. -/
theorem loaded_strictly (reader : RowReader α) (answer : Except StoreError (List Cursor)) :
    Loaded reader answer (strictly reader answer) (leniently reader answer) := by
  unfold strictly leniently
  cases answer with
  | error e => exact .unanswered e
  | ok rows =>
      rcases mapM_read_cases reader rows with ⟨as, hall, hmap⟩ |
        ⟨good, row, bad, e, rfl, hgood, hrow, hfirst⟩
      · have hdecoded := decoded_of_map hmap
        simp only [hall]
        rw [← hdecoded] at hmap ⊢
        exact .all rows hmap
      · simp only [hfirst]
        refine .refused good row bad e hgood hrow fun hdecodes => ?_
        rw [StoreError.ofQuery, if_pos (hdecodes row e hrow)]

/-- If the codec of a table refuses rows and nothing else, a strict load of rows that cannot be
decoded fails with an error of the step. -/
theorem RowReader.Decodes.strictly_eq_step {reader : RowReader α} (hreader : reader.Decodes)
    {rows : List Cursor} {failure : Failure} (h : strictly reader (.ok rows) = .error failure) :
    ∃ detail, failure = .error (.step detail) := by
  have hloaded := loaded_strictly reader (.ok rows)
  rw [h] at hloaded
  cases hloaded with
  | refused good row bad e hgood hrow hstep => exact ⟨e.detail, by rw [hstep hreader]⟩

/-- So it is for every table of the sample. -/
theorem SampleTable.strictly_eq_step (s : SampleTable) {rows : List Cursor} {failure : Failure}
    (h : strictly s.table.decode (.ok rows) = .error failure) :
    ∃ detail, failure = .error (.step detail) := s.decodes.strictly_eq_step h

-- The second of three users has no name.
example :
    let rows : List Cursor :=
      [[some (.integer 1), some (.text "Ann")], [some (.integer 2), none],
        [some (.integer 3), some (.text "Bea"), none, some (.text "B")]].map
          (.ofRow ["userID", "name"])
    strictly User.read (.ok rows)
        = .error (.error (.step "column 1 (name) has no value of type alloc::string::String")) ∧
      leniently User.read (.ok rows)
        = .ok [⟨1, "Ann", none, none⟩, ⟨3, "Bea", none, some "B"⟩] := ⟨rfl, rfl⟩

/-! ## Programs -/

/-- The rows that a reading shows for a query, if it compiles. -/
def Reading.rows (read : Reading) (c : Connection) (q : Query) : Except StoreError (List Cursor) :=
  match q.toSql with
  | .error e => .error (.ofQuery e)
  | .ok _ => ((read c q).mapError Fault.asStatement).map ResultSet.cursors

/-- The rows that a connection shows for a query, if it compiles. -/
def Connection.rows (c : Connection) (q : Query) : Except StoreError (List Cursor) :=
  match q.toSql with
  | .error e => .error (.ofQuery e)
  | .ok _ => ((c.read q).mapError Fault.asStatement).map ResultSet.cursors

/-- They are rows of its content. -/
theorem Connection.rows_of_content {c next : Connection} (h : next.content = c.content)
    (q : Query) : next.rows q = c.rows q := by
  have hread : next.read q = c.read q := by
    unfold read
    rw [h]
  unfold rows
  rw [hread]

namespace Db

/-- The rows of a query that compiles, by a reading. -/
def rowsBy (read : Reading) (q : Query) : Db (List Cursor) := do
  return (← askConnection fun c => (read c q).mapError Fault.asStatement).cursors

/-- Hands every row of a query to a body, by a reading. -/
def forEachRowBy (read : Reading) (q : Query) (body : Cursor → Db α) : Db (List α) := do
  discard (orInvalid q.toSql)
  withConnection (do (← rowsBy read q).mapM body)

/-- The load of a table, by a reading. -/
def loadBy {Column Entity : Type} {t : Table Column Entity} (read : Reading)
    (q : SelectQuery t) : Db (List Entity) := do
  createTable t
  forEachRowBy read q.query fun row => orInvalid (row.read t.decode)

/-- The load of one row, by a reading. -/
def loadOneBy {Column Entity : Type} {t : Table Column Entity} (read : Reading)
    (q : SelectQuery t) : Db (Option Entity) :=
  return (← loadBy read (q.limitTo 1)).head?

/-- The loads of the library are those by its own reading. -/
theorem loadBy_read {Column Entity : Type} {t : Table Column Entity} (q : SelectQuery t) :
    loadBy Connection.read q = load q ∧ loadOneBy Connection.read q = loadOne q := ⟨rfl, rfl⟩

/-- What a reader makes of rows is what it makes of them one after another. -/
theorem mapM_orInvalid (read : Cursor → Except QueryError α) (rows : List Cursor) :
    (rows.mapM fun row => orInvalid (read row)) = orInvalid (rows.mapM read) := by
  induction rows with
  | nil => rfl
  | cons row rows ih =>
      rw [List.mapM_cons, List.mapM_cons, ih]
      cases read row with
      | error e => rfl
      | ok a => cases rows.mapM read <;> rfl

section

variable (files : List (String × StoredFile)) (c : Connection) (borrows : Nat) (q : Query)

/-- A body for every row of a query on an open connection. -/
theorem exec_forEachRowBy (read : Reading) (body : Cursor → Db α) :
    (forEachRowBy read q body).exec ⟨files, some c, borrows⟩ = match read.rows c q with
      | .error e => (.error (.error e), ⟨files, some c, borrows⟩)
      | .ok rows => (((rows.mapM body).exec ⟨files, some c, borrows + 1⟩).1,
          ((rows.mapM body).exec ⟨files, some c, borrows + 1⟩).2.giveBack) := by
  unfold forEachRowBy Reading.rows
  rw [exec_bind, exec_discard]
  cases q.toSql with
  | error e => rfl
  | ok text =>
      show (withConnection (do (← rowsBy read q).mapM body)).exec ⟨files, some c, borrows⟩ = _
      unfold rowsBy
      rw [exec_withConnection, exec_bind, exec_bind, exec_askConnection]
      cases read c q <;> rfl

/-- So it is by the library's own reading. -/
theorem exec_forEachRow (body : Cursor → Db α) :
    (forEachRow q body).exec ⟨files, some c, borrows⟩ = match c.rows q with
      | .error e => (.error (.error e), ⟨files, some c, borrows⟩)
      | .ok rows => (((rows.mapM body).exec ⟨files, some c, borrows + 1⟩).1,
          ((rows.mapM body).exec ⟨files, some c, borrows + 1⟩).2.giveBack) :=
  exec_forEachRowBy files c borrows q Connection.read body

/-- Decoding every row of a query. -/
theorem exec_decodeBy (read : Reading) (reader : RowReader α) :
    (forEachRowBy read q fun row => orInvalid (row.read reader)).exec ⟨files, some c, borrows⟩
      = (strictly reader (read.rows c q), ⟨files, some c, borrows⟩) := by
  unfold strictly
  rw [exec_forEachRowBy]
  cases read.rows c q with
  | error e => rfl
  | ok rows =>
      simp only
      rw [mapM_orInvalid]
      cases rows.mapM (Cursor.read reader) <;> rfl

/-- Loading the rows of a query. -/
theorem exec_loadRows (reader : RowReader α) :
    (loadRows reader q).exec ⟨files, some c, borrows⟩
      = (strictly reader (c.rows q), ⟨files, some c, borrows⟩) :=
  exec_decodeBy files c borrows q Connection.read reader

/-- Loading the rows of a query by a mapping that looks at the row only. -/
theorem exec_loadMapped (f : Cursor → Option α) :
    (loadMapped (fun row => pure (f row)) q).exec ⟨files, some c, borrows⟩
      = (match c.rows q with
        | .error e => .error (.error e)
        | .ok rows => .ok (rows.filterMap f), ⟨files, some c, borrows⟩) := by
  unfold loadMapped
  rw [exec_bind, exec_forEachRow]
  cases c.rows q with
  | error e => rfl
  | ok rows =>
      have hmap : (rows.map f).filterMap id = rows.filterMap f := List.filterMap_map
      simp only
      rw [List.mapM_pure, ← hmap]
      rfl

end

end Db

/-! ## Loads of a table -/

variable {Column Entity : Type} {t : Table Column Entity}

namespace Db

/-- The lenient load is the load with the mapping that leaves out what does not decode. -/
theorem loadLenient_eq (q : SelectQuery t) :
    loadLenient q = loadWith q fun row => pure (row.read t.decode).toOption := by
  have hmapping : mapping (some <$> t.decode) = fun row => pure (row.read t.decode).toOption := by
    funext row
    unfold mapping
    rw [row.read_map]
    cases row.read t.decode <;> rfl
  unfold loadLenient loadWith
  rw [hmapping]

end Db

/-- The strict load of a table, the lenient one and the one by the mapping that leaves out what does
not decode.  If the table cannot be created they fail with that, and nothing has changed.  Otherwise
they leave the same database, which is changed by that table at most; they are loads of the rows
that the connection shows then.  Rows are loaded without the creation in the same way, which comes
to the same if the table is there. -/
theorem Db.loads_agree (q : SelectQuery t) (db : Database) :
    let skipping (row : Cursor) : Db (Option Entity) := pure (row.read t.decode).toOption
    ((∃ failure, (createTable t).exec db = (.error failure, db) ∧
        (load q).exec db = (.error failure, db) ∧ (loadLenient q).exec db = (.error failure, db) ∧
        (loadWith q skipping).exec db = (.error failure, db)) ∨
      ∃ c content strict lenient, db.connection = some c ∧ c.content.Creates t.name content ∧
        Loaded t.decode ((c.withContent content).rows q.query) strict lenient ∧
        let after := { db with connection := some (c.withContent content) }
        (createTable t).exec db = (.ok (), after) ∧ (load q).exec db = (strict, after) ∧
        (loadLenient q).exec db = (lenient, after) ∧
        (loadWith q skipping).exec db = (lenient, after) ∧
        ((c.content.table? t.name).isSome = true →
          content = c.content ∧ (loadRows t.decode q.query).exec db = (strict, db))) ∧
    ∀ c, db.connection = some c → ∃ strict lenient,
      Loaded t.decode (c.rows q.query) strict lenient ∧
        (loadRows t.decode q.query).exec db = (strict, db) := by
  intro skipping
  have hlenient : loadLenient q = loadWith q skipping := loadLenient_eq q
  obtain ⟨files, _ | c, borrows⟩ := db
  · -- Without a connection nothing can be loaded, nor the table created.
    refine ⟨.inl ⟨.error .notOpen, rfl, rfl, rfl, rfl⟩, ?_⟩
    rintro c ⟨⟩
  constructor
  · rcases exec_createTable_cases (c := c) files borrows t with ⟨e, hcreate⟩ |
      ⟨content, hcontent, hthere, hcreate⟩
    · have hfail {α : Type} (body : Db α) : (createTable t >>= fun _ => body).exec
          ⟨files, some c, borrows⟩ = (.error (.error e), ⟨files, some c, borrows⟩) := by
        rw [exec_bind, hcreate]
      rw [hlenient]
      exact .inl ⟨.error e, hcreate, hfail _, hfail _, hfail _⟩
    · -- What follows the creation runs on the connection that it leaves.
      have hdone {α : Type} (body : Db α) : (createTable t >>= fun _ => body).exec
          ⟨files, some c, borrows⟩ = body.exec ⟨files, some (c.withContent content), borrows⟩ := by
        rw [exec_bind, hcreate]
      have hload : (load q).exec ⟨files, some c, borrows⟩ = _ :=
        (hdone _).trans (exec_loadRows files (c.withContent content) borrows q.query t.decode)
      have hskipping : (loadWith q skipping).exec ⟨files, some c, borrows⟩
          = (leniently t.decode ((c.withContent content).rows q.query), _) :=
        (hdone _).trans (exec_loadMapped files (c.withContent content) borrows q.query _)
      rw [hlenient]
      refine .inr ⟨c, content, _, _, rfl, hcontent, loaded_strictly t.decode _, hcreate, hload,
        hskipping, hskipping, fun htable => ?_⟩
      have hsame : content = c.content := hthere htable
      have hrows : (c.withContent content).rows q.query = c.rows q.query :=
        Connection.rows_of_content hsame q.query
      rw [hrows]
      exact ⟨hsame, exec_loadRows files c borrows _ _⟩
  · rintro _ ⟨⟩
    exact ⟨_, _, loaded_strictly t.decode (c.rows q.query), exec_loadRows files c borrows _ _⟩

end SqlStore
