/-
# Faults

A fault is why the database refuses a statement.  Faults of preparation are found before the
statement has done anything, faults of stepping while it runs; either way the statement has no
effect.
-/
namespace SqlStore

/-- Why a statement fails. -/
inductive Fault
  /-- The text is no statement. -/
  | malformed
  | noSuchTable (name : String)
  | noSuchColumn (name : String)
  | ambiguousColumn (name : String)
  | duplicateColumn (name : String)
  /-- A name is taken by another table or index, or kept for the database. -/
  | nameTaken (name : String)
  /-- An insert has another number of values than of columns. -/
  | valueCount (expected found : Nat)
  /-- A table would have several primary keys, or counts on a column that is no integer key. -/
  | badPrimaryKey (table : String)
  /-- A key column, or one that cannot be `NULL` but has no default, is added to a table. -/
  | badAddedColumn (name : String)
  | notNull (column : String)
  | notUnique (table : String)
  /-- Something that has to be an integer is none. -/
  | mismatch
  /-- No larger row number is left. -/
  | full
  | readOnly
  | openTransaction
  | noTransaction
  /-- The journal cannot change now. -/
  | journalBusy
deriving DecidableEq, Inhabited

namespace Fault

/-- Whether the statement does not even prepare. -/
def isPrepare : Fault → Bool
  | malformed | noSuchTable _ | noSuchColumn _ | ambiguousColumn _ | duplicateColumn _
  | nameTaken _ | valueCount .. | badPrimaryKey _ | badAddedColumn _ => true
  | _ => false

/-- What went wrong. -/
def message : Fault → String
  | malformed => "syntax error"
  | noSuchTable name => "no such table: " ++ name
  | noSuchColumn name => "no such column: " ++ name
  | ambiguousColumn name => "ambiguous column name: " ++ name
  | duplicateColumn name => "duplicate column name: " ++ name
  | nameTaken name => "the name is taken: " ++ name
  | valueCount expected found =>
      toString found ++ " values for " ++ toString expected ++ " columns"
  | badPrimaryKey table => "table " ++ table ++ " has an unusable primary key"
  | badAddedColumn name => "cannot add the column " ++ name
  | notNull name => "NOT NULL constraint failed: " ++ name
  | notUnique table => "UNIQUE constraint failed: " ++ table
  | mismatch => "datatype mismatch"
  | full => "database or disk is full"
  | readOnly => "attempt to write a readonly database"
  | openTransaction => "cannot start a transaction within a transaction"
  | noTransaction => "no transaction is active"
  | journalBusy => "cannot change the journal mode now"

end Fault

end SqlStore
