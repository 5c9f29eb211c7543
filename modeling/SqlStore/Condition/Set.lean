/-
# Condition sets

A condition set is a tree of conditions under `AND` and `OR`.  Combining never concatenates text:
a compound operand is marked *capsuled* first, and a capsuled node is written in parentheses, so
that the text groups as the tree does.  The empty set is the identity of both connectives.
-/
import SqlStore.Condition.Basic

namespace SqlStore

/-- How two sets are combined. -/
inductive Connective
  | and
  | or
deriving DecidableEq, Inhabited

/-- The keyword of a connective. -/
def Connective.keyword : Connective → String
  | .and => "AND"
  | .or => "OR"

/-- A tree of conditions. -/
inductive ConditionSet
  | empty
  | single (condition : Condition)
  | compound (connective : Connective) (left right : ConditionSet) (capsuled : Bool)
deriving Inhabited

namespace ConditionSet

/-- Whether there is no condition at all. -/
def isEmpty : ConditionSet → Bool
  | empty => true
  | _ => false

/-- Marks a compound node to be written in parentheses. -/
def capsule : ConditionSet → ConditionSet
  | compound op left right _ => compound op left right true
  | set => set

/-- Combines two sets, capsuling compound operands. -/
def combine (op : Connective) : ConditionSet → ConditionSet → ConditionSet
  | empty, right => right
  | left, empty => left
  | left, right => compound op left.capsule right.capsule false

/-- Both sets hold. -/
def and (left right : ConditionSet) : ConditionSet := combine .and left right

/-- One of the sets holds. -/
def or (left right : ConditionSet) : ConditionSet := combine .or left right

/-- The same tree with every condition on a column of the given table. -/
def qualified (table : String) : ConditionSet → ConditionSet
  | empty => empty
  | single c => single (c.qualified table)
  | compound op left right capsuled =>
      compound op (left.qualified table) (right.qualified table) capsuled

/-- Puts a capsuled text into parentheses. -/
def wrap (capsuled : Bool) (text : String) : String :=
  if capsuled then "(" ++ text ++ ")" else text

/-- The SQL text of a set; the empty set has the empty text. -/
def toSql : ConditionSet → Except QueryError String
  | empty => .ok ""
  | single c => c.toSql
  | compound op left right capsuled => do
      let l ← left.toSql
      let r ← right.toSql
      return wrap capsuled (l ++ " " ++ op.keyword ++ " " ++ r)

/-- The conditions of the tree from left to right. -/
def leaves : ConditionSet → List Condition
  | empty => []
  | single c => [c]
  | compound _ left right _ => left.leaves ++ right.leaves

/-- Equality of sets, reals compared as numbers. -/
def same : ConditionSet → ConditionSet → Bool
  | empty, empty => true
  | single c, single d => c.same d
  | compound op l r capsuled, compound op' l' r' capsuled' =>
      op == op' && l.same l' && r.same r' && capsuled == capsuled'
  | _, _ => false

end ConditionSet

end SqlStore
