/-
# Changes of rows

An insert gives a row its number, pulls its cells to their columns and settles conflicts with the
rows already there: `OR REPLACE` removes those, `OR IGNORE` leaves the new row out, and a plain
insert fails.  An update assigns to every row that passes its test, and a delete removes those rows.
A change that fails leaves its table as it was.

* `StoredTable.insertRow` : one row under a conflict policy;
* `StoredTable.updateRows`, `StoredTable.deleteRows` : the rows that pass a test, with their number.
-/
import SqlStore.Store.Select

namespace SqlStore

namespace StoredTable

/-! ## Keys -/

/-- Whether two rows agree on a key. -/
def agreeOnKey (key : List Nat) (a b : StoredRow) : Bool :=
  key.all fun i => (cellAt a.cells i).equals (cellAt b.cells i)

/-- Whether two rows cannot both be in the table. -/
def conflict (t : StoredTable) (a b : StoredRow) : Bool :=
  a.id == b.id || t.uniqueKeys.any fun key => agreeOnKey key a b

/-- Whether no two of the rows conflict. -/
def compatible (t : StoredTable) : List StoredRow → Bool
  | [] => true
  | r :: rest => rest.all (fun other => !t.conflict r other) && t.compatible rest

/-- The first column that holds `NULL` and must not. -/
def missing? (t : StoredTable) (cells : List Cell) : Option String :=
  (t.columns.zip cells).findSome? fun (c, cell) =>
    if c.notNull && cell.isNull then some c.name else none

/-! ## Numbers of rows -/

/-- The largest number of a row, if there is a row. -/
def maxId? (t : StoredTable) : Option Int64 := t.rows.getLast?.map (·.id)

/-- The number of a new row that names none: one more than the largest, and than any ever given in
a table that counts.  Behind the largest number of all there is none to give.  SQLite refuses the
row only where the table counts; in other tables it draws numbers until one is free, which is not
modelled. -/
def nextId (t : StoredTable) : Except Fault Int64 :=
  let largest := t.maxId?.getD 0
  let largest := if t.counting then max largest t.lastId else largest
  if largest == Int64.maxValue then .error .full else .ok (largest + 1)

/-- The number that a cell gives to a row; `NULL` leaves the choice to the table. -/
def idOf (t : StoredTable) (cell : Cell) : Except Fault Int64 :=
  match Affinity.integer.store cell with
  | .null => t.nextId
  | .integer n => .ok n
  | _ => .error .mismatch

/-! ## Insert -/

/-- The cells of a row as its table stores them. -/
def stored (t : StoredTable) (cells : List Cell) : List Cell :=
  t.columns.zipWith (fun c cell => c.affinity.store cell) cells

/-- A row with its number in the column that holds it. -/
def numbered (t : StoredTable) (id : Int64) (cells : List Cell) : StoredRow :=
  { id, cells := t.idColumn.elim cells fun i => cells.set i (.integer id) }

/-- The cells of a row in which `OR REPLACE` puts defaults in place of a `NULL` that must not be. -/
def withDefaults (t : StoredTable) (cells : List Cell) : List Cell :=
  t.columns.zipWith (fun c cell =>
    if c.notNull && cell.isNull then c.affinity.store c.default else cell) cells

/-- Adds a row, or does with it what the policy says of a row that cannot be added.  The number of
a row counts as given even if the row is left out. -/
def insertRow (t : StoredTable) (policy : Option ConflictPolicy) (cells : List Cell) :
    Except Fault StoredTable := do
  let id ← match t.idColumn with
    | some i => t.idOf (cellAt cells i)
    | none => t.nextId
  let counted := if t.counting then { t with lastId := max t.lastId id } else t
  let row := t.numbered id (t.stored cells)
  let row := if policy == some .replace then { row with cells := t.withDefaults row.cells } else row
  match t.missing? row.cells with
  | some column => if policy == some .ignore then return counted else throw (.notNull column)
  | none =>
      if t.rows.any (t.conflict row) then
        match policy with
        | some .replace =>
            return { counted with rows := place row (t.rows.filter fun r => !t.conflict row r) }
        | some .ignore => return counted
        | none => throw (.notUnique t.name)
      else return { counted with rows := place row t.rows }

/-- The cells of a row, of which some columns are given.  A column given twice takes the first cell,
and one that is not given takes its default; but the number of the row takes the last cell given for
it, and has no default. -/
def spread (t : StoredTable) (positions : List Nat) (given : List Cell) : List Cell :=
  let pairs := positions.zip given
  t.columns.mapIdx fun i c =>
    if t.idColumn == some i then (pairs.reverse.lookup i).getD .null
    else (pairs.lookup i).getD c.default

/-- The positions of the columns that an insert names. -/
def positions (t : StoredTable) (columns : List String) : Except Fault (List Nat) :=
  if columns.isEmpty then .error .malformed else columns.mapM t.position

/-! ## Update and delete -/

/-- The cells of a row after assignments, of which the last to a column counts. -/
def assign (assignments : List (Nat × Cell)) (cells : List Cell) : List Cell :=
  assignments.foldl (fun cells (i, c) => cells.set i c) cells

/-- A row whose cells have changed; its number has to stay an integer. -/
def renumbered (t : StoredTable) (row : StoredRow) (cells : List Cell) :
    Except Fault StoredRow :=
  match t.idColumn with
  | none => .ok { row with cells }
  | some i =>
      match cellAt cells i with
      | .integer id => .ok { id, cells }
      | _ => .error .mismatch

/-- A row after the assignments of an update, if it passes the test. -/
def updatedRow (t : StoredTable) (test : Test) (assignments : List (Nat × Cell))
    (row : StoredRow) : Except Fault StoredRow := do
  if test.holds row.cells then
    let updated ← t.renumbered row (assign assignments row.cells)
    match t.missing? updated.cells with
    | some column => throw (.notNull column)
    | none => return updated
  else return row

/-- Assigns to the rows that pass a test, and counts them. -/
def updateRows (t : StoredTable) (test : Test) (assignments : List (Nat × Cell)) :
    Except Fault (StoredTable × Nat) := do
  let rows ← t.rows.mapM (t.updatedRow test assignments)
  if t.compatible rows then
    return ({ t with rows := rows.foldr place [] },
      (t.rows.filter fun r => test.holds r.cells).length)
  else throw (.notUnique t.name)

/-- Removes the rows that pass a test, and counts them. -/
def deleteRows (t : StoredTable) (test : Test) : StoredTable × Nat :=
  ({ t with rows := t.rows.filter fun r => !test.holds r.cells },
    (t.rows.filter fun r => test.holds r.cells).length)

end StoredTable

namespace Content

/-- Inserts one row of values. -/
def insert (c : Content) (table : String) (columns : List String) (values : List (Option Value))
    (policy : ConflictPolicy) : Except Fault Content := do
  let t ← c.table table
  let positions ← t.positions columns
  let given ← orMalformed (values.mapM Cell.ofOperand?)
  if given.length ≠ positions.length then throw (.valueCount positions.length given.length)
  return c.withTable (← t.insertRow policy (t.spread positions given))

/-- Inserts some columns of every row of one table into some columns of another. -/
def copyRows (c : Content) (source target : String) (targetColumns sourceColumns : List String) :
    Except Fault Content := do
  let t ← c.table target
  let positions ← t.positions targetColumns
  let answer ← c.select (.new source (.columns sourceColumns))
  if sourceColumns.length ≠ positions.length then
    throw (.valueCount positions.length sourceColumns.length)
  let filled ← answer.rows.foldlM (fun t given => t.insertRow none (t.spread positions given)) t
  return c.withTable filled

/-- Updates rows, and counts them. -/
def update (c : Content) (u : Update) : Except Fault (Content × Nat) := do
  let t ← c.table u.table
  let assignments ← u.replace.mapM fun a => do
    let i ← t.position a.column
    let cell ← orMalformed (Cell.ofOperand? a.value)
    return (i, (t.scope.affinity i).store cell)
  let (updated, count) ← t.updateRows (← u.conditions.test t.scope) assignments
  return (c.withTable updated, count)

/-- Deletes rows, and counts them. -/
def delete (c : Content) (d : Delete) : Except Fault (Content × Nat) := do
  let t ← c.table d.table
  let (rest, count) := t.deleteRows (← d.conditions.test t.scope)
  return (c.withTable rest, count)

end Content

end SqlStore
