/-
# Diagnostic text of queries

The diagnostic text names every field of a query, nested as the data is: `Name { field: value }`
for a record, `Tag(value)` for a variant, brackets for a list, and strings in double quotes.
-/
import SqlStore.Table.Basic
import SqlStore.Text.Unprintable

namespace SqlStore.Describe

/-! ## Shapes -/

/-- A hexadecimal number without leading zeros. -/
def hexText (n : Nat) : String := String.ofList (Nat.toDigits 16 n)

/-- A character inside a quoted string. -/
def escape (c : Char) : String :=
  match c with
  | '\x00' => "\\0"
  | '\t' => "\\t"
  | '\n' => "\\n"
  | '\r' => "\\r"
  | '"' => "\\\""
  | '\\' => "\\\\"
  | c => if isUnprintable c then "\\u\x7b" ++ hexText c.toNat ++ "\x7d" else String.singleton c

/-- A string in double quotes. -/
def string (s : String) : String := "\"" ++ String.join (s.toList.map escape) ++ "\""

/-- A record with its fields. -/
def record (name : String) (fields : List (String × String)) : String :=
  name ++ " \x7b " ++ ", ".intercalate (fields.map fun f => f.1 ++ ": " ++ f.2) ++ " \x7d"

/-- A variant with its content. -/
def variant (tag content : String) : String := tag ++ "(" ++ content ++ ")"

/-- A list. -/
def list {α : Type} (describe : α → String) (items : List α) : String :=
  "[" ++ ", ".intercalate (items.map describe) ++ "]"

/-- A value that may be absent. -/
def option {α : Type} (describe : α → String) (v : Option α) : String :=
  v.elim "None" fun x => variant "Some" (describe x)

/-- A truth value. -/
def bool (b : Bool) : String := if b then "true" else "false"

/-- A real; the layout of finite ones is that of literals. -/
def real (x : Double) : String :=
  if x.isFinite then x.text literalLayout
  else if x.isNaN then "NaN"
  else if x.negative then "-inf" else "inf"

/-! ## Conditions -/

mutual

/-- A value. -/
def value : Value → String
  | .integer n => variant "Integer" (toString n)
  | .real x => variant "Real" (real x)
  | .text s => variant "Text" (string s)
  | .boolean b => variant "Boolean" (bool b)
  | .list items => variant "List" ("[" ++ ", ".intercalate (values items) ++ "]")

/-- Several values. -/
def values : List Value → List String
  | [] => []
  | v :: vs => value v :: values vs

end

/-- An operator. -/
def operator : Operator → String
  | .equal => "Equal"
  | .notEqual => "NotEqual"
  | .greaterThan orEqual => record "GreaterThan" [("or_equal", bool orEqual)]
  | .lessThan orEqual => record "LessThan" [("or_equal", bool orEqual)]
  | .inList => "In"
  | .notInList => "NotIn"
  | .isNull => "IsNull"
  | .like => "Like"

/-- A condition. -/
def condition (c : Condition) : String :=
  record "Condition" [("table", option string c.table), ("key", string c.key),
    ("operation", operator c.operation), ("value", option value c.value)]

/-- A condition set. -/
def conditions : ConditionSet → String
  | .empty => "Empty"
  | .single c => variant "Single" (condition c)
  | .compound op left right capsuled =>
      record (match op with | .and => "And" | .or => "Or")
        [("left", conditions left), ("right", conditions right), ("capsuled", bool capsuled)]

/-! ## Statements -/

/-- A selection. -/
def selection : Selection → String
  | .all => "All"
  | .columns names => variant "Some" (list string names)

/-- A limit. -/
def limit (n : Option UInt64) : String := option toString n

/-- A filter. -/
def filter (f : Filter) : String :=
  record "Filter" [("conditions", conditions f.conditions), ("ascending", list string f.ascending),
    ("descending", list string f.descending), ("limit", limit f.limit)]

/-- A select. -/
def select (s : Select) : String :=
  record "SelectStatement" [("table", string s.table), ("selection", selection s.selection),
    ("filter", filter s.filter)]

/-- An assignment. -/
def assignment (a : Assignment) : String :=
  record "ReplaceSet" [("column", string a.column), ("value", option value a.value)]

/-- An update. -/
def update (u : Update) : String :=
  record "UpdateStatement" [("table", string u.table), ("replace", list assignment u.replace),
    ("conditions", conditions u.conditions)]

/-- A delete. -/
def delete (d : Delete) : String :=
  record "DeleteStatement" [("table", string d.table), ("conditions", conditions d.conditions)]

/-- A kind of join. -/
def joinKind : JoinKind → String
  | .inner => "Inner"
  | .leftOuter => "LeftOuter"
  | .cross => "Cross"

/-- The columns wanted from one table of a join. -/
def joinSelection (s : JoinSelection) : String :=
  record "JoinSelection" [("table", string s.table), ("selection", selection s.selection)]

/-- A joined table. -/
def joinOn (j : JoinOn) : String :=
  record "JoinOn" [("kind", joinKind j.kind), ("table", string j.table), ("left", string j.left),
    ("right", string j.right)]

/-- A column of a table. -/
def columnInTable (c : ColumnInTable) : String :=
  record "ColumnInTable" [("table", string c.table), ("column", string c.column)]

/-- A join. -/
def join (j : Join) : String :=
  record "JoinStatement" [("base", string j.base), ("selections", list joinSelection j.selections),
    ("joins", list joinOn j.joins), ("conditions", conditions j.conditions),
    ("ascending", list columnInTable j.ascending),
    ("descending", list columnInTable j.descending), ("limit", limit j.limit)]

/-! ## Typed queries -/

variable {Column Entity : Type} {t : Table Column Entity}

/-- A typed select. -/
def selectQuery (q : SelectQuery t) : String :=
  record "SelectQuery" [("statement", select q.statement)]

/-- A typed update. -/
def updateQuery (q : UpdateQuery t) : String :=
  record "UpdateQuery" [("statement", update q.statement)]

/-- A typed delete. -/
def deleteQuery (q : DeleteQuery t) : String :=
  record "DeleteQuery" [("statement", delete q.statement)]

/-- A typed join. -/
def joinQuery (q : JoinQuery t) : String :=
  record "JoinQuery" [("statement", join q.statement)]

end SqlStore.Describe
