/-
# Reading a row

A `Cursor` is one row with a position.  Positional reads move on by one column whether they succeed
or not; reads by name do not move.  A `RowReader` is a program of such reads that may fail, and a
failed read has moved the cursor like any other.
-/
import SqlStore.Error

namespace SqlStore

/-- Types that a stored value can be read as. -/
class Readable (α : Type) where
  /-- The name of the type in messages. -/
  typeName : String
  /-- The value read as this type, if it fits. -/
  ofValue? : Value → Option α

/-- An integer or a truth value, as an integer. -/
def Value.toInt64? : Value → Option Int64
  | integer n => some n
  | boolean b => some (if b then 1 else 0)
  | _ => none

/-- An integer between two bounds, the upper one excluded. -/
def Value.toIntBetween? (low high : Int) (v : Value) : Option Int :=
  v.toInt64?.bind fun n => if low ≤ n.toInt ∧ n.toInt < high then some n.toInt else none

instance : Readable Int64 where
  typeName := "i64"
  ofValue? := Value.toInt64?

instance : Readable Int32 where
  typeName := "i32"
  ofValue? v := (v.toIntBetween? (-0x80000000) 0x80000000).map Int32.ofInt

instance : Readable UInt32 where
  typeName := "u32"
  ofValue? v := (v.toIntBetween? 0 UInt32.size).map fun n => UInt32.ofNat n.toNat

instance : Readable UInt64 where
  typeName := "usize"
  ofValue? v := (v.toIntBetween? 0 UInt64.size).map fun n => UInt64.ofNat n.toNat

instance : Readable Double where
  typeName := "f64"
  ofValue?
    | .real x => some x
    | .integer n => some (.ofInt n.toInt)
    | _ => none

instance : Readable Bool where
  typeName := "bool"
  ofValue?
    | .boolean b => some b
    | .integer n => some (n != 0)
    | _ => none

instance : Readable String where
  typeName := "alloc::string::String"
  ofValue?
    | .text s => some s
    | _ => none

instance : Readable Value where
  typeName := "sqlservice_core::value::Value"
  ofValue? := some

/-! ## The types as data -/

/-- The types that values can be read as. -/
inductive ScalarType
  | int64
  | int32
  | uint32
  | uint64
  | double
  | bool
  | string
  | value
deriving DecidableEq, Inhabited

namespace ScalarType

/-- The type itself. -/
def Carrier : ScalarType → Type
  | int64 => Int64
  | int32 => Int32
  | uint32 => UInt32
  | uint64 => UInt64
  | double => Double
  | bool => Bool
  | string => String
  | value => Value

instance readable : (t : ScalarType) → Readable t.Carrier
  | int64 => inferInstanceAs (Readable Int64)
  | int32 => inferInstanceAs (Readable Int32)
  | uint32 => inferInstanceAs (Readable UInt32)
  | uint64 => inferInstanceAs (Readable UInt64)
  | double => inferInstanceAs (Readable Double)
  | bool => inferInstanceAs (Readable Bool)
  | string => inferInstanceAs (Readable String)
  | value => inferInstanceAs (Readable Value)

/-- The type of a name. -/
def ofName? : String → Option ScalarType
  | "i64" => some int64
  | "i32" => some int32
  | "u32" => some uint32
  | "usize" => some uint64
  | "f64" => some double
  | "bool" => some bool
  | "String" => some string
  | "Value" => some value
  | _ => none

end ScalarType

/-- What a column was read as, if it could be. -/
abbrev ScalarField := (type : ScalarType) × Option type.Carrier

/-! ## Rows -/

/-- The values of a row in column order; absent values are `NULL`. -/
abbrev Row := List (Option Value)

/-- A row, the names of its columns and a read position.  The position has no upper bound, and needs
none: every read moves on by one, so that no run comes to the end of a machine word. -/
structure Cursor where
  names : List String
  values : Row
  index : Nat
deriving Inhabited

namespace Cursor

/-- A cursor at the first column of a row. -/
def ofRow (names : List String) (values : Row) : Cursor := { names, values, index := 0 }

/-- The value at a position, read as a type. -/
def valueAt? (α : Type) [Readable α] (c : Cursor) (position : Nat) : Option α :=
  c.values[position]?.join.bind Readable.ofValue?

/-- The cursor one column further on. -/
def advance (c : Cursor) : Cursor := { c with index := c.index + 1 }

/-- The value of the first column of a name. -/
def get? (α : Type) [Readable α] (c : Cursor) (name : String) : Option α :=
  (c.names.idxOf? name).bind (c.valueAt? α)

/-- The number of columns. -/
def size (c : Cursor) : Nat := c.values.length

/-- The error of a required value that is not there. -/
def unreadable (α : Type) [Readable α] (c : Cursor) : QueryError :=
  .unreadable c.index (c.names[c.index]?.getD "?") (Readable.typeName α)

end Cursor

/-- A program that reads a row. -/
abbrev RowReader := ExceptT QueryError (StateM Cursor)

namespace RowReader

/-- Reads the next column; absent for `NULL`, for a value of another type and past the end. -/
def next (α : Type) [Readable α] : RowReader (Option α) := do
  let c ← get
  set c.advance
  return c.valueAt? α c.index

/-- Reads the next column, which has to be there. -/
def require (α : Type) [Readable α] : RowReader α := do
  let c ← get
  match ← next α with
  | some v => return v
  | none => throw (c.unreadable α)

/-- Reads the first column of a name. -/
def get? (α : Type) [Readable α] (name : String) : RowReader (Option α) := do
  return (← get).get? α name

/-- The number of columns. -/
def size : RowReader Nat := do
  return (← get).size

/-- Reads the next columns, each as a type; nothing if a column that is not optional is absent. -/
def fields : List (ScalarType × Bool) → RowReader (Option (List ScalarField))
  | [] => return some []
  | (type, optional) :: rest => do
      let v ← next type.Carrier
      let others ← fields rest
      return if v.isNone && !optional then none else others.map (⟨type, v⟩ :: ·)

/-- Runs a reader on a row from its first column on. -/
def decode {α : Type} (reader : RowReader α) (names : List String) (values : Row) :
    Except QueryError α :=
  (reader.run.run (.ofRow names values)).1

end RowReader

end SqlStore
