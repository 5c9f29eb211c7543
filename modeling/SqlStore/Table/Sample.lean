/-
# Sample tables

`users` is a table with an entity type of its own.  The other tables hold plain rows, described
column by column; between them they have each kind of key, default and constraint.
-/
import SqlStore.Table.Basic

namespace SqlStore

/-! ## Users -/

/-- The columns of `users`. -/
inductive UserColumn
  | userId
  | name
  | age
  | nickname
deriving DecidableEq

/-- A user. -/
structure User where
  userId : Int64
  name : String
  age : Option Int64
  nickname : Option String
deriving DecidableEq, Inhabited

namespace UserColumn

/-- The name of a column. -/
def columnName : UserColumn → String
  | userId => "userID"
  | name => "name"
  | age => "age"
  | nickname => "nickname"

/-- The declaration of a column. -/
def declaration : UserColumn → ColumnDecl
  | userId => ⟨"userID", .integer, [.primaryKey false]⟩
  | name => ⟨"name", .text, [.notNull]⟩
  | age => ⟨"age", .integer, []⟩
  | nickname => ⟨"nickname", .text, []⟩

end UserColumn

namespace User

/-- The value of a column. -/
def scalar (u : User) : UserColumn → Option Value
  | .userId => some (.integer u.userId)
  | .name => some (.text u.name)
  | .age => u.age.map .integer
  | .nickname => u.nickname.map .text

/-- Reads a user. -/
def read : RowReader User := do
  return { userId := ← .require Int64
           name := ← .require String
           age := ← .next Int64
           nickname := ← .next String }

/-- The user of a row that holds values of the right kinds. -/
def ofRow? : Row → Option User
  | [some (.integer userId), some (.text name), age, nickname] => do
      let age ← match age with
        | none => some none
        | some (.integer n) => some (some n)
        | _ => none
      let nickname ← match nickname with
        | none => some none
        | some (.text s) => some (some s)
        | _ => none
      return { userId, name, age, nickname }
  | _ => none

/-- The script that takes `users` from a version to the next. -/
def migration (version : Int32) : Option Script :=
  if version = 0 then
    some [.createTable "users" [UserColumn.userId.declaration, UserColumn.name.declaration]]
  else if version = 1 then some [.addColumn "users" UserColumn.age.declaration]
  else if version = 2 then some [.addColumn "users" UserColumn.nickname.declaration]
  else none

/-- The first users of the sample, with ids from one on. -/
def samples (count : Int64) : List User :=
  (List.range count.toInt.toNat).map fun n =>
    let id := Int64.ofNat (n + 1)
    { userId := id, name := "user" ++ toString id, age := some (18 + id * 3), nickname := none }

end User

/-- The table of users. -/
def users : Table UserColumn User where
  name := "users"
  columns := [.userId, .name, .age, .nickname]
  columnName := UserColumn.columnName
  declaration := UserColumn.declaration
  scalar := User.scalar
  decode := User.read
  migration := User.migration

/-! ## Tables of plain rows -/

/-- How a column of a plain row is decoded. -/
structure ColumnCodec where
  /-- Reads the next column as a value. -/
  read : RowReader (Option Value)

namespace ColumnCodec

/-- A column that has to hold a value of a type. -/
def required (α : Type) [Readable α] (toValue : α → Value) : ColumnCodec where
  read := do return some (toValue (← .require α))

/-- A column that may hold no value of the type. -/
def optional (α : Type) [Readable α] (toValue : α → Value) : ColumnCodec where
  read := do return (← .next α).map toValue

end ColumnCodec

/-- A table whose entities are plain rows. -/
def rowTable (name : String) (columns : List (ColumnDecl × ColumnCodec))
    (migration : Int32 → Option Script) : Table (Fin columns.length) Row where
  name
  columns := List.finRange columns.length
  columnName i := columns[i].1.name
  declaration i := columns[i].1
  scalar row i := row[i.val]?.join
  decode := columns.mapM fun c => c.2.read
  migration

/-- The columns of `pets`. -/
def petColumns : List (ColumnDecl × ColumnCodec) :=
  [(⟨"petID", .integer, [.primaryKey true]⟩, .required Int64 .integer),
    (⟨"ownerID", .integer, []⟩, .required Int64 .integer),
    (⟨"name", .text, []⟩, .required String .text)]

/-- Pets with their owners. -/
def pets : Table (Fin petColumns.length) Row :=
  rowTable "pets" petColumns fun version =>
    if version = 0 then some [.createTable "pets" (petColumns.map Prod.fst)]
    else if version = 1 then some [.createIndex "pets_owner" "pets" ["ownerID"]]
    else none

/-- The columns of `Table2`. -/
def pairColumns : List (ColumnDecl × ColumnCodec) :=
  [(⟨"c1", .char 8, [.primaryKey false]⟩, .required String .text),
    (⟨"c2", .integer, [.primaryKey false]⟩, .required Int64 .integer),
    (⟨"c3", .real, []⟩, .optional Double .real)]

/-- A table with a composite key, whose script for negative versions is no statement. -/
def pairs : Table (Fin pairColumns.length) Row :=
  rowTable "Table2" pairColumns fun version =>
    if version < 0 then some [.unreadable "THIS IS NOT SQL;"] else none

/-- The columns of `items`. -/
def itemColumns : List (ColumnDecl × ColumnCodec) :=
  [(⟨"id", .integer, [.primaryKey true]⟩, .required Int64 .integer),
    (⟨"code", .char 8, [.notNull, .unique]⟩, .required String .text),
    (⟨"price", .real, [.default (.real ⟨0x3FE0000000000000⟩)]⟩, .optional Double .real),
    (⟨"active", .integer, [.notNull, .default (.boolean true)]⟩, .required Bool .boolean),
    (⟨"tag", .text, [.default (.text "it's")]⟩, .optional String .text)]

/-- Items with defaults, a unique code and a column that is never `NULL`. -/
def items : Table (Fin itemColumns.length) Row :=
  rowTable "items" itemColumns fun version =>
    if version = 0 then some [.createTable "items" (itemColumns.map Prod.fst)]
    else if version = 1 then some [.renameTable "old_items" "items"]
    else none

/-! ## The sample as a whole -/

/-- The sample tables. -/
inductive SampleTable
  | users
  | pets
  | pairs
  | items
deriving DecidableEq, Inhabited

namespace SampleTable

/-- The columns of a table. -/
def Column : SampleTable → Type
  | users => UserColumn
  | pets => Fin petColumns.length
  | pairs => Fin pairColumns.length
  | items => Fin itemColumns.length

/-- The entities of a table. -/
def Entity : SampleTable → Type
  | users => User
  | pets => Row
  | pairs => Row
  | items => Row

/-- The descriptor of a table. -/
def table : (t : SampleTable) → Table t.Column t.Entity
  | users => SqlStore.users
  | pets => SqlStore.pets
  | pairs => SqlStore.pairs
  | items => SqlStore.items

/-- An entity as a plain row. -/
def toRow : (t : SampleTable) → t.Entity → Row
  | users => SqlStore.users.serialize
  | pets => id
  | pairs => id
  | items => id

/-- The entity of a plain row. -/
def ofRow? : (t : SampleTable) → Row → Option t.Entity
  | users => User.ofRow?
  | pets => some
  | pairs => some
  | items => some

end SampleTable

end SqlStore
