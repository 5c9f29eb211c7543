/-
# Loading rows

A typed load creates its table first, compiles its query and then hands the rows, one after another,
to a reader: the strict load fails at the first row that does not decode, the lenient one leaves
such rows out, and a mapped load takes what a mapping makes of each row.

The rows are all read before the first of them is handed on, while SQLite looks for a row when it is
asked for it.  A query that fails does so before its first row, so that the two differ only for a
mapping that changes the very rows its load is reading.

The connection is handed the query itself, once its text is there.  That queries with one text are
read alike is proved in `Proofs.Store.Alike`.

* `Db.load`, `Db.loadLenient`, `Db.loadWith` : the rows of a typed select;
* `Db.loadOne`, `Db.loadOneWith` : the first of them;
* `Db.loadRows`, `Db.loadValue`, `Db.loadJoinWith` : the rows of any query.
-/
import SqlStore.Database.Basic

namespace SqlStore

/-- What a select made for one table asks for, as a query of any kind. -/
def SelectQuery.query {Column Entity : Type} {t : Table Column Entity} (q : SelectQuery t) :
    Query := .select q.statement

/-- A join as a query of any kind. -/
def JoinQuery.query {Column Entity : Type} {t : Table Column Entity} (q : JoinQuery t) : Query :=
  .join q.statement

namespace ResultSet

/-- The rows as cursors at their first columns. -/
def cursors (r : ResultSet) : List Cursor :=
  r.rows.map fun row => .ofRow r.names (row.map Cell.toValue?)

end ResultSet

/-- What a reader makes of a row. -/
def Cursor.read {α : Type} (reader : RowReader α) (c : Cursor) : Except QueryError α :=
  (reader.run.run c).1

namespace Db

variable {α : Type}

/-- The rows of a query that compiles, as the connection shows them. -/
def rows (q : Query) : Db (List Cursor) := do
  return (← askConnection fun c => (c.read q).mapError Fault.asStatement).cursors

/-- Reads the rows of a query and hands them to a body, in order, while the connection is in use. -/
def forEachRow (q : Query) (body : Cursor → Db α) : Db (List α) := do
  discard (orInvalid q.toSql)
  withConnection (do (← rows q).mapM body)

/-- The rows of any query, each of which has to decode. -/
def loadRows (reader : RowReader α) (q : Query) : Db (List α) :=
  forEachRow q fun row => orInvalid (row.read reader)

/-- What a mapping makes of the rows of a query; it leaves out the rows that it maps to nothing. -/
def loadMapped (mapping : Cursor → Db (Option α)) (q : Query) : Db (List α) := do
  return (← forEachRow q mapping).filterMap id

/-- A mapping of every row by a reader; it leaves out the rows that the reader refuses. -/
def mapping (reader : RowReader (Option α)) (row : Cursor) : Db (Option α) :=
  pure (row.read reader).toOption.join

/-- The first column of the first row, if it is there and has the type asked for. -/
def loadValue (α : Type) [Readable α] (q : Query) : Db (Option α) := do
  discard (orInvalid q.toSql)
  withConnection (do return (← rows q).head?.bind (·.valueAt? α 0))

variable {Column Entity : Type} {t : Table Column Entity}

/-- Every entity that a query selects; the table is created if it is missing. -/
def load (q : SelectQuery t) : Db (List Entity) := do
  createTable t
  loadRows t.decode q.query

/-- Like `load`, but rows that do not decode are left out. -/
def loadLenient (q : SelectQuery t) : Db (List Entity) := do
  createTable t
  loadMapped (mapping (some <$> t.decode)) q.query

/-- Like `load`, with a mapping in place of the decoder of the table. -/
def loadWith (q : SelectQuery t) (mapping : Cursor → Db (Option α)) : Db (List α) := do
  createTable t
  loadMapped mapping q.query

/-- What a mapping makes of the rows of a join. -/
def loadJoinWith (q : JoinQuery t) (mapping : Cursor → Db (Option α)) : Db (List α) :=
  loadMapped mapping q.query

/-- The first entity that a query selects. -/
def loadOne (q : SelectQuery t) : Db (Option Entity) := return (← load (q.limitTo 1)).head?

/-- The first that a mapping makes of the first row. -/
def loadOneWith (q : SelectQuery t) (mapping : Cursor → Db (Option α)) : Db (Option α) :=
  return (← loadWith (q.limitTo 1) mapping).head?

end Db

end SqlStore
