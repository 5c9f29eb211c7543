/-
# Reading typed data from JSON trees

A variant is a string, or an object with one member that maps the tag to its content.  A record is
an object, in which unknown members are skipped and a known one may not occur twice, or the array of
its fields in order.  Readers carry the number of arrays and objects that may still be entered.
-/
import SqlStore.Json.Number
import SqlStore.Json.Parser

namespace SqlStore.Json

/-- The arrays and objects that typed data may be nested in. -/
def nestingLimit : Nat := 127

/-! ## Scalars -/

/-- A string without half a surrogate pair. -/
def text? : Json → Option String
  | string s => s
  | _ => none

/-- A truth value. -/
def bool? : Json → Option Bool
  | bool b => some b
  | _ => none

/-- An integer between two bounds, the upper one excluded. -/
def integer? (low high : Int) : Json → Option Int
  | number lexeme =>
      match JsonNumber.ofLexeme lexeme with
      | some (.integer n) => if low ≤ n ∧ n < high then some n else none
      | _ => none
  | _ => none

/-- A signed sixty-four bit integer. -/
def int64? (v : Json) : Option Int64 :=
  (v.integer? (-0x8000000000000000) 0x8000000000000000).map Int64.ofInt

/-- An unsigned sixty-four bit integer. -/
def uint64? (v : Json) : Option UInt64 :=
  (v.integer? 0 UInt64.size).map fun n => UInt64.ofNat n.toNat

/-- A real; an integer is one too. -/
def double? : Json → Option Double
  | number lexeme =>
      match JsonNumber.ofLexeme lexeme with
      | some (.integer n) => some (.ofInt n)
      | some (.real x) => some x
      | none => none
  | _ => none

/-- A value that may be absent. -/
def option? {α : Type} (read : Json → Option α) : Json → Option (Option α)
  | null => some none
  | v => (read v).map some

/-- The items of an array, each read at the depth inside it. -/
def list? {α : Type} (read : Nat → Json → Option α) : Nat → Json → Option (List α)
  | depth + 1, array items => items.mapM (read depth)
  | _, _ => none

/-! ## Variants -/

/-- The tag of a variant without content. -/
def unitTag? : Nat → Json → Option String
  | _, string s => s
  | _ + 1, object [(tag, null)] => tag
  | _, _ => none

/-- One of several variants without content. -/
def choice? {α : Type} (choices : List (String × α)) (depth : Nat) (v : Json) : Option α :=
  (v.unitTag? depth).bind fun tag => choices.lookup tag

/-! ## Records -/

/-- The fields found for a record. -/
structure Fields where
  /-- Whether the record was an array, in which only trailing fields can be absent. -/
  positional : Bool
  present : List (String × Json)

/-- Whether a key occurs twice. -/
def repeated : List String → Bool
  | [] => false
  | key :: rest => rest.contains key || repeated rest

/-- The fields of a record with the given field names. -/
def fields? (names : List String) : Json → Option Fields
  | object members => do
      let readable ← members.mapM fun (key, v) => key.map (·, v)
      let known := readable.filter fun m => names.contains m.1
      if repeated (known.map Prod.fst) then none else return ⟨false, known⟩
  | array items => if items.length ≤ names.length then some ⟨true, names.zip items⟩ else none
  | _ => none

namespace Fields

/-- A field that has to be there. -/
def required {α : Type} (f : Fields) (name : String) (read : Json → Option α) : Option α :=
  (f.present.lookup name).bind read

/-- A field that may be left out of an object, or hold null. -/
def optional {α : Type} (f : Fields) (name : String) (read : Json → Option α) :
    Option (Option α) :=
  match f.present.lookup name with
  | some v => v.option? read
  | none => if f.positional then none else some none

/-- A field with a value for when it is absent. -/
def defaulted {α : Type} (f : Fields) (name : String) (read : Json → Option α) (fallback : α) :
    Option α :=
  match f.present.lookup name with
  | some v => read v
  | none => some fallback

end Fields

/-- Reads a text that holds one tree. -/
def decode? {α : Type} (read : Nat → Json → Option α) (s : String) : Option α :=
  (parse s).bind (read nestingLimit)

end SqlStore.Json
