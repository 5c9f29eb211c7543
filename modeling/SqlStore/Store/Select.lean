/-
# Answers of selects and joins

A select takes the rows of a source, keeps those that pass its test, orders them, cuts the list at
the limit and shows some of the columns.  The source of a join is built table by table: every row
so far is followed by each row of the next table that agrees with it on the joined columns.  A
select that counts has one row, whose other columns are those of the first row counted.

* `Source.present` : what a select shows of the rows that it keeps;
* `Source.answer` : what it shows of a source;
* `Content.selectPlan`, `Content.joinPlan` : the source of a statement, and what it asks of it;
* `Content.select`, `Content.join` : the answers of the statements.
-/
import SqlStore.Statement
import SqlStore.Store.Content

namespace SqlStore

/-- The rows that a query yields, under the names of their columns. -/
structure ResultSet where
  names : List String
  rows : List (List Cell)
deriving DecidableEq, Inhabited

/-- What a select takes rows from. -/
structure Source where
  scope : Scope
  rows : List (List Cell)
deriving Inhabited

/-- What a select shows. -/
inductive Output
  | column (position : Nat)
  /-- The number of rows. -/
  | count
deriving DecidableEq, Inhabited

/-- How an answer is ordered: by a column, ascending or descending. -/
structure SortKey where
  column : Nat
  ascending : Bool
deriving DecidableEq, Inhabited

/-- The order of two rows by the first key on which they differ. -/
def orderRows (keys : List SortKey) (a b : List Cell) : Ordering :=
  match keys with
  | [] => .eq
  | key :: rest =>
      let (x, y) := (cellAt a key.column, cellAt b key.column)
      (if key.ascending then x.rank y else y.rank x).then (orderRows rest a b)

/-- What a select asks of its source. -/
structure Projection where
  outputs : List Output
  test : Test
  ordering : List SortKey
  limit : Option UInt64
deriving Inhabited

/-- The rows of a list up to a limit, which has to be a signed integer. -/
def limited {α : Type} (limit : Option UInt64) (rows : List α) : Except Fault (List α) :=
  match limit with
  | none => .ok rows
  | some n => if n < 0x8000000000000000 then .ok (rows.take n.toNat) else .error .mismatch

namespace Source

/-- The name of an output. -/
def outputName (s : Source) : Output → String
  | .column i => (s.scope[i]?).elim "" (·.name)
  | .count => "count(*)"

/-- A row as it is shown, where so many rows were counted. -/
def showRow (outputs : List Output) (count : Nat) (row : List Cell) : List Cell :=
  outputs.map fun
    | .column i => cellAt row i
    | .count => .integer (Int64.ofNat count)

/-- The rows of the source that pass a test. -/
def passing (s : Source) (test : Test) : List (List Cell) := s.rows.filter test.holds

/-- What a select shows of the rows that it keeps, which are given in the order in which it takes
them. -/
def present (s : Source) (p : Projection) (rows : List (List Cell)) : Except Fault ResultSet := do
  let shown :=
    if p.outputs.contains .count then [showRow p.outputs rows.length (rows.headD [])]
    else rows.map (showRow p.outputs 0)
  return { names := p.outputs.map s.outputName, rows := ← limited p.limit shown }

/-- The rows that a select keeps, in the order in which it takes them.  Rows that agree on all keys
stay in the order of the source, which is that of their numbers in a table.  SQLite promises no
order of such rows: where it walks an index it takes them as they stand there, and under a limit it
may choose another way than without.  What holds of every order that it may take is told in
`Proofs.Store.RowOrder`. -/
def arranged (s : Source) (p : Projection) : List (List Cell) :=
  if p.outputs.contains .count then s.passing p.test
  else (s.passing p.test).mergeSort fun a b => orderRows p.ordering a b != .gt

/-- The answer of a select. -/
def answer (s : Source) (p : Projection) : Except Fault ResultSet := s.present p (s.arranged p)

/-- The rows of a source followed by those of a table, by a test of the two.  A row with no match is
kept by an outer join, the table's columns being `NULL`. -/
def join (s : Source) (kind : JoinKind) (t : StoredTable) (agree : List Cell → Bool) : Source where
  scope := s.scope ++ t.scope
  rows := s.rows.flatMap fun left =>
    match kind, (t.rows.map fun r => left ++ r.cells).filter agree with
    | .leftOuter, [] => [left ++ t.columns.map fun _ => .null]
    | _, joined => joined

end Source

namespace StoredTable

/-- A table as a source. -/
def source (t : StoredTable) : Source where
  scope := t.scope
  rows := t.rows.map (·.cells)

end StoredTable

/-- Every position of a scope. -/
def Scope.positions (scope : Scope) : List Output := (List.range scope.length).map .column

/-- What a select over one table shows. -/
def Selection.outputs (scope : Scope) : Selection → Except Fault (List Output)
  | .all => .ok scope.positions
  | .columns [] => .error .malformed
  | .columns names => names.mapM fun name =>
      if name == "count(*)" then .ok .count else (scope.position none name).map .column

/-- What a select over several tables shows of one of them. -/
def JoinSelection.outputs (scope : Scope) (s : JoinSelection) : Except Fault (List Output) :=
  match s.selection with
  | .all => .ok (scope.positions.filter fun
      | .column i => (scope[i]?).any fun c => sameName c.table s.table
      | .count => false)
  | .columns names => names.mapM fun name => (scope.position s.table name).map .column

/-- Whether the columns of a join agree in a row; `NULL` agrees with nothing. -/
def agreeOn (scope : Scope) (left right : Nat) (row : List Cell) : Bool :=
  Affinity.orderAcross (scope.affinity left) (scope.affinity right) (cellAt row left)
    (cellAt row right) == some .eq

namespace Content

/-- What a select takes its rows from, and what it asks of them. -/
def selectPlan (c : Content) (s : Select) : Except Fault (Source × Projection) := do
  let source := (← c.table s.table).source
  let key (ascending : Bool) (name : String) : Except Fault SortKey := do
    return { column := ← source.scope.position none name, ascending }
  return (source,
    { outputs := ← s.selection.outputs source.scope
      test := ← s.filter.conditions.test source.scope
      ordering := (← s.filter.ascending.mapM (key true)) ++ (← s.filter.descending.mapM (key false))
      limit := s.filter.limit })

/-- The answer of a select. -/
def select (c : Content) (s : Select) : Except Fault ResultSet := do
  let (source, asked) ← c.selectPlan s
  source.answer asked

/-- The source of a join; the joined columns are named in the scope of all its tables. -/
def joinSource (c : Content) (j : Join) : Except Fault Source := do
  let base ← c.table j.base
  let joined ← j.joins.mapM fun on => return (on, ← c.table on.table)
  let scope := joined.foldl (fun scope next => scope ++ next.2.scope) base.scope
  joined.foldlM (fun source next => do
    let left ← scope.position j.base next.1.left
    let right ← scope.position next.2.name next.1.right
    return source.join next.1.kind next.2 (agreeOn scope left right)) base.source

/-- What a join takes its rows from, and what it asks of them. -/
def joinPlan (c : Content) (j : Join) : Except Fault (Source × Projection) := do
  let source ← c.joinSource j
  let outputs := (← j.selections.mapM (·.outputs source.scope)).flatten
  let key (ascending : Bool) (column : ColumnInTable) : Except Fault SortKey := do
    return { column := ← source.scope.position column.table column.column, ascending }
  if outputs.isEmpty then throw .malformed
  return (source,
    { outputs
      test := ← j.conditions.test source.scope
      ordering := (← j.ascending.mapM (key true)) ++ (← j.descending.mapM (key false))
      limit := j.limit })

/-- The answer of a join. -/
def join (c : Content) (j : Join) : Except Fault ResultSet := do
  let (source, asked) ← c.joinPlan j
  source.answer asked

end Content

end SqlStore
