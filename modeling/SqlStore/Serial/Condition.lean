/-
# Values and conditions as JSON

Variants are written as their tag, or as an object from the tag to the content; records are written
with all their fields in order.  Each `toJson` has an `ofJson?` that reads its output.
-/
import SqlStore.Condition.Set
import SqlStore.Json.Decode

namespace SqlStore

/-- The tree of a kind of scalar. -/
def ScalarKind.toJson (k : ScalarKind) : Json := .text k.name

/-- Reads a kind of scalar. -/
def ScalarKind.ofJson? : Nat → Json → Option ScalarKind :=
  Json.choice? ([.integer, .real, .text, .boolean, .list].map fun k => (ScalarKind.name k, k))

namespace Value

mutual

/-- The tree of a value. -/
def toJson : Value → Json
  | integer n => .tagged "Integer" (.integer n.toInt)
  | real x => .tagged "Real" (.real x)
  | text s => .tagged "Text" (.text s)
  | boolean b => .tagged "Boolean" (.bool b)
  | list items => .tagged "List" (.array (listToJson items))

/-- The trees of several values. -/
def listToJson : List Value → List Json
  | [] => []
  | v :: vs => v.toJson :: listToJson vs

end

/-- Reads a value. -/
def ofJson? : Nat → Json → Option Value
  | _ + 1, .object [(some "Integer", v)] => v.int64?.map integer
  | _ + 1, .object [(some "Real", v)] => v.double?.map real
  | _ + 1, .object [(some "Text", v)] => v.text?.map text
  | _ + 1, .object [(some "Boolean", v)] => v.bool?.map boolean
  | depth + 2, .object [(some "List", .array items)] => (items.mapM (ofJson? depth)).map list
  | _, _ => none

end Value

namespace Operator

/-- The tree of an operator. -/
def toJson : Operator → Json
  | equal => .text "Equal"
  | notEqual => .text "NotEqual"
  | greaterThan orEqual => .tagged "GreaterThan" (.record [("or_equal", .bool orEqual)])
  | lessThan orEqual => .tagged "LessThan" (.record [("or_equal", .bool orEqual)])
  | inList => .text "In"
  | notInList => .text "NotIn"
  | isNull => .text "IsNull"
  | like => .text "Like"

/-- Reads the content of a strict or weak comparison. -/
def orEqual? : Nat → Json → Option Bool
  | _ + 1, v => do
      let f ← v.fields? ["or_equal"]
      f.required "or_equal" Json.bool?
  | _, _ => none

/-- Reads an operator. -/
def ofJson? : Nat → Json → Option Operator
  | depth + 1, .object [(some "GreaterThan", v)] => (orEqual? depth v).map greaterThan
  | depth + 1, .object [(some "LessThan", v)] => (orEqual? depth v).map lessThan
  | depth, v => v.choice?
      [("Equal", equal), ("NotEqual", notEqual), ("In", inList), ("NotIn", notInList),
        ("IsNull", isNull), ("Like", like)] depth

end Operator

namespace Condition

/-- The tree of a condition. -/
def toJson (c : Condition) : Json :=
  .record [("table", .ofOption .text c.table), ("key", .text c.key),
    ("operation", c.operation.toJson), ("value", .ofOption Value.toJson c.value)]

/-- Reads a condition. -/
def ofJson? : Nat → Json → Option Condition
  | depth + 1, v => do
      let f ← v.fields? ["table", "key", "operation", "value"]
      return { table := ← f.optional "table" Json.text?
               key := ← f.required "key" Json.text?
               operation := ← f.required "operation" (Operator.ofJson? depth)
               value := ← f.optional "value" (Value.ofJson? depth) }
  | _, _ => none

end Condition

/-- The tag of a connective. -/
def Connective.tag : Connective → String
  | .and => "And"
  | .or => "Or"

namespace ConditionSet

/-- The tree of a condition set. -/
def toJson : ConditionSet → Json
  | empty => .text "Empty"
  | single c => .tagged "Single" c.toJson
  | compound op left right capsuled =>
      .tagged op.tag (.record
        [("left", left.toJson), ("right", right.toJson), ("capsuled", .bool capsuled)])

/-- Reads a condition set. -/
def ofJson? : Nat → Json → Option ConditionSet
  | depth + 1, .object [(some "Single", v)] => (Condition.ofJson? depth v).map single
  | depth + 2, .object [(some "And", v)] => do
      let f ← v.fields? ["left", "right", "capsuled"]
      return compound .and (← f.required "left" (ofJson? depth))
        (← f.required "right" (ofJson? depth)) (← f.required "capsuled" Json.bool?)
  | depth + 2, .object [(some "Or", v)] => do
      let f ← v.fields? ["left", "right", "capsuled"]
      return compound .or (← f.required "left" (ofJson? depth))
        (← f.required "right" (ofJson? depth)) (← f.required "capsuled" Json.bool?)
  | depth, v => v.choice? [("Empty", empty)] depth

end ConditionSet

end SqlStore
