/-
# Queries and schemas as JSON
-/
import SqlStore.Serial.Condition
import SqlStore.Statement

namespace SqlStore

/-- An array of strings. -/
def Json.texts (items : List String) : Json := .array (items.map .text)

/-- Reads an array of strings. -/
def Json.texts? : Nat → Json → Option (List String) := Json.list? fun _ => Json.text?

/-! ## Single tables -/

/-- The tree of a selection. -/
def Selection.toJson : Selection → Json
  | all => .text "All"
  | columns names => .tagged "Some" (.texts names)

/-- Reads a selection. -/
def Selection.ofJson? : Nat → Json → Option Selection
  | depth + 1, .object [(some "Some", v)] => (v.texts? depth).map columns
  | depth, v => v.choice? [("All", all)] depth

/-- The tree of a limit. -/
def limitToJson (limit : Option UInt64) : Json := .ofOption (fun n => .integer n.toNat) limit

/-- The tree of a filter. -/
def Filter.toJson (f : Filter) : Json :=
  .record [("conditions", f.conditions.toJson), ("ascending", .texts f.ascending),
    ("descending", .texts f.descending), ("limit", limitToJson f.limit)]

/-- Reads a filter. -/
def Filter.ofJson? : Nat → Json → Option Filter
  | depth + 1, v => do
      let f ← v.fields? ["conditions", "ascending", "descending", "limit"]
      return { conditions := ← f.required "conditions" (ConditionSet.ofJson? depth)
               ascending := ← f.required "ascending" (Json.texts? depth)
               descending := ← f.required "descending" (Json.texts? depth)
               limit := ← f.optional "limit" Json.uint64? }
  | _, _ => .none

/-- The tree of a select. -/
def Select.toJson (s : Select) : Json :=
  .record [("table", .text s.table), ("selection", s.selection.toJson),
    ("filter", s.filter.toJson)]

/-- Reads a select. -/
def Select.ofJson? : Nat → Json → Option Select
  | depth + 1, v => do
      let f ← v.fields? ["table", "selection", "filter"]
      return { table := ← f.required "table" Json.text?
               selection := ← f.required "selection" (Selection.ofJson? depth)
               filter := ← f.required "filter" (Filter.ofJson? depth) }
  | _, _ => none

/-! ## Updates and deletes -/

/-- The tree of an assignment. -/
def Assignment.toJson (a : Assignment) : Json :=
  .record [("column", .text a.column), ("value", .ofOption Value.toJson a.value)]

/-- Reads an assignment. -/
def Assignment.ofJson? : Nat → Json → Option Assignment
  | depth + 1, v => do
      let f ← v.fields? ["column", "value"]
      return { column := ← f.required "column" Json.text?
               value := ← f.optional "value" (Value.ofJson? depth) }
  | _, _ => none

/-- The tree of an update. -/
def Update.toJson (u : Update) : Json :=
  .record [("table", .text u.table), ("replace", .array (u.replace.map Assignment.toJson)),
    ("conditions", u.conditions.toJson)]

/-- Reads an update. -/
def Update.ofJson? : Nat → Json → Option Update
  | depth + 1, v => do
      let f ← v.fields? ["table", "replace", "conditions"]
      return { table := ← f.required "table" Json.text?
               replace := ← f.required "replace" (Json.list? Assignment.ofJson? depth)
               conditions := ← f.required "conditions" (ConditionSet.ofJson? depth) }
  | _, _ => none

/-- The tree of a delete. -/
def Delete.toJson (d : Delete) : Json :=
  .record [("table", .text d.table), ("conditions", d.conditions.toJson)]

/-- Reads a delete. -/
def Delete.ofJson? : Nat → Json → Option Delete
  | depth + 1, v => do
      let f ← v.fields? ["table", "conditions"]
      return { table := ← f.required "table" Json.text?
               conditions := ← f.required "conditions" (ConditionSet.ofJson? depth) }
  | _, _ => none

/-! ## Joins -/

/-- The tag of a kind of join. -/
def JoinKind.tag : JoinKind → String
  | .inner => "Inner"
  | .leftOuter => "LeftOuter"
  | .cross => "Cross"

/-- The tree of a kind of join. -/
def JoinKind.toJson (k : JoinKind) : Json := .text k.tag

/-- Reads a kind of join. -/
def JoinKind.ofJson? : Nat → Json → Option JoinKind :=
  Json.choice? ([.inner, .leftOuter, .cross].map fun k => (JoinKind.tag k, k))

/-- The tree of the columns wanted from one table. -/
def JoinSelection.toJson (s : JoinSelection) : Json :=
  .record [("table", .text s.table), ("selection", s.selection.toJson)]

/-- Reads the columns wanted from one table. -/
def JoinSelection.ofJson? : Nat → Json → Option JoinSelection
  | depth + 1, v => do
      let f ← v.fields? ["table", "selection"]
      return { table := ← f.required "table" Json.text?
               selection := ← f.required "selection" (Selection.ofJson? depth) }
  | _, _ => none

/-- The tree of a joined table. -/
def JoinOn.toJson (j : JoinOn) : Json :=
  .record [("kind", j.kind.toJson), ("table", .text j.table), ("left", .text j.left),
    ("right", .text j.right)]

/-- Reads a joined table. -/
def JoinOn.ofJson? : Nat → Json → Option JoinOn
  | depth + 1, v => do
      let f ← v.fields? ["kind", "table", "left", "right"]
      return { kind := ← f.required "kind" (JoinKind.ofJson? depth)
               table := ← f.required "table" Json.text?
               left := ← f.required "left" Json.text?
               right := ← f.required "right" Json.text? }
  | _, _ => none

/-- The tree of a column of a table. -/
def ColumnInTable.toJson (c : ColumnInTable) : Json :=
  .record [("table", .text c.table), ("column", .text c.column)]

/-- Reads a column of a table. -/
def ColumnInTable.ofJson? : Nat → Json → Option ColumnInTable
  | _ + 1, v => do
      let f ← v.fields? ["table", "column"]
      return { table := ← f.required "table" Json.text?
               column := ← f.required "column" Json.text? }
  | _, _ => none

/-- The tree of a join. -/
def Join.toJson (j : Join) : Json :=
  .record [("base", .text j.base), ("selections", .array (j.selections.map JoinSelection.toJson)),
    ("joins", .array (j.joins.map JoinOn.toJson)), ("conditions", j.conditions.toJson),
    ("ascending", .array (j.ascending.map ColumnInTable.toJson)),
    ("descending", .array (j.descending.map ColumnInTable.toJson)),
    ("limit", limitToJson j.limit)]

/-- Reads a join. -/
def Join.ofJson? : Nat → Json → Option Join
  | depth + 1, v => do
      let f ← v.fields?
        ["base", "selections", "joins", "conditions", "ascending", "descending", "limit"]
      return { base := ← f.required "base" Json.text?
               selections := ← f.required "selections" (Json.list? JoinSelection.ofJson? depth)
               joins := ← f.required "joins" (Json.list? JoinOn.ofJson? depth)
               conditions := ← f.required "conditions" (ConditionSet.ofJson? depth)
               ascending := ← f.required "ascending" (Json.list? ColumnInTable.ofJson? depth)
               descending := ← f.required "descending" (Json.list? ColumnInTable.ofJson? depth)
               limit := ← f.optional "limit" Json.uint64? }
  | _, _ => none

/-! ## Columns -/

/-- The tree of a kind of data. -/
def DataKind.toJson : DataKind → Json
  | integer => .text "Integer"
  | text => .text "Text"
  | real => .text "Real"
  | char size => .tagged "Char" (.integer size.toNat)

/-- Reads a kind of data. -/
def DataKind.ofJson? : Nat → Json → Option DataKind
  | _ + 1, .object [(some "Char", v)] => v.uint64?.map char
  | depth, v => v.choice? [("Integer", integer), ("Text", text), ("Real", real)] depth

/-- The tree of an attribute. -/
def ColumnAttribute.toJson : ColumnAttribute → Json
  | primaryKey autoIncrement =>
      .tagged "PrimaryKey" (.record [("auto_increment", .bool autoIncrement)])
  | notNull => .text "NotNull"
  | unique => .text "Unique"
  | default value => .tagged "Default" value.toJson

/-- Reads an attribute. -/
def ColumnAttribute.ofJson? : Nat → Json → Option ColumnAttribute
  | _ + 2, .object [(some "PrimaryKey", v)] => do
      let f ← v.fields? ["auto_increment"]
      return primaryKey (← f.required "auto_increment" Json.bool?)
  | depth + 1, .object [(some "Default", v)] => (Value.ofJson? depth v).map default
  | depth, v => v.choice? [("NotNull", notNull), ("Unique", unique)] depth

/-- The tree of a column declaration. -/
def ColumnDecl.toJson (d : ColumnDecl) : Json :=
  .record [("name", .text d.name), ("kind", d.kind.toJson),
    ("attributes", .array (d.attributes.map ColumnAttribute.toJson))]

/-- Reads a column declaration. -/
def ColumnDecl.ofJson? : Nat → Json → Option ColumnDecl
  | depth + 1, v => do
      let f ← v.fields? ["name", "kind", "attributes"]
      return { name := ← f.required "name" Json.text?
               kind := ← f.required "kind" (DataKind.ofJson? depth)
               attributes := ← f.required "attributes" (Json.list? ColumnAttribute.ofJson? depth) }
  | _, _ => none

end SqlStore
