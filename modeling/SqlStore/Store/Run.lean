/-
# Running a statement

Every statement but those of a transaction turns a content into another one, and a statement that
fails leaves the content as it was.

* `Content.run` : the content after a statement, and the number of rows that it changed;
* `Content.writes` : whether a statement needs to write;
* `Statement.overwrites` : whether it writes even where it changes nothing.
-/
import SqlStore.Store.Layout

namespace SqlStore

/-- Whether a statement that has succeeded for so many rows has written even if it left everything
as it was: it puts the same again in its place. -/
def Statement.overwrites : Statement → Nat → Bool
  | .setUserVersion _, _ => true
  | .query (.update _), count => 0 < count
  | .query (.delete d), _ => d.conditions.isEmpty
  | .insert _ _ _ policy, _ => policy == .replace
  | _, _ => false

namespace Content

/-- The content after a statement, with the number of rows that it changed. -/
def run (c : Content) : Statement → Except Fault (Content × Nat)
  | .query (.select s) => (c.select s).map fun _ => (c, 0)
  | .query (.join j) => (c.join j).map fun _ => (c, 0)
  | .query (.update u) => c.update u
  | .query (.delete d) => c.delete d
  | .createTable name columns => (c.create name columns).map (·, 0)
  | .createIndex name table columns => (c.createIndex name table columns).map (·, 0)
  | .dropTable name => (c.drop name).map (·, 0)
  | .renameTable old new => (c.rename old new).map (·, 0)
  | .addColumn table column => (c.addColumn table column).map (·, 0)
  | .copyRows source target new old => (c.copyRows source target new old).map (·, 0)
  | .insert table columns values policy => (c.insert table columns values policy).map (·, 0)
  | .setUserVersion version => .ok ({ c with userVersion := version }, 0)
  | .begin | .commit | .rollback => .ok (c, 0)
  | .unreadable _ => .error .malformed

/-- Whether a statement needs to write to the database; creating what exists and dropping what does
not need not. -/
def writes (c : Content) : Statement → Bool
  | .query (.select _) | .query (.join _) => false
  | .query (.update _) | .query (.delete _) => true
  | .createTable name _ => (c.table? name).isNone
  | .createIndex name _ _ => !c.hasIndex name
  | .dropTable name => (c.table? name).isSome
  | .renameTable .. | .addColumn .. | .copyRows .. | .insert .. | .setUserVersion _ => true
  | .begin | .commit | .rollback | .unreadable _ => false

/-- Runs a statement where nothing may be written; a statement that does not prepare is refused
for that reason first. -/
def runReadOnly (c : Content) (s : Statement) : Except Fault (Content × Nat) :=
  match c.run s with
  | .ok result => if c.writes s then .error .readOnly else .ok result
  | .error fault => .error (if c.writes s && !fault.isPrepare then .readOnly else fault)

end Content

end SqlStore
