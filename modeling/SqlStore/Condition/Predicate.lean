/-
# What the text of a condition set says

The text of a set is a sequence of lexemes: conditions, connectives and parentheses.  What stands
for a condition is left open, because a reader of the text knows only what the text says of it.
`AND` binds more tightly than `OR`, both group to the left, and parentheses group;
`Predicate.ofLexemes?` reads the sequence by these rules.  A set built by `and` and `or` alone reads
back as its own tree, but a compound operand that is not capsuled may group otherwise, and an empty
operand leaves a connective without a side, so that nothing reads it.

* `ConditionSet.lexemes` : the text as a sequence;
* `Predicate.ofLexemes?` : the grouping of a sequence, if it has one.
-/
import SqlStore.Condition.Set

namespace SqlStore

/-- One item of the text of a condition set, whose conditions are given as leaves of some type. -/
inductive Lexeme (Leaf : Type)
  | leaf (condition : Leaf)
  | connective (op : Connective)
  | opening
  | closing
deriving Inhabited

/-- The items of the text of a set, in order. -/
def ConditionSet.lexemes : ConditionSet → List (Lexeme Condition)
  | empty => []
  | single c => [.leaf c]
  | compound op left right capsuled =>
      let body := left.lexemes ++ .connective op :: right.lexemes
      if capsuled then .opening :: body ++ [.closing] else body

/-- Leaves under `AND` and `OR`, each with two sides. -/
inductive Predicate (Leaf : Type)
  | leaf (condition : Leaf)
  | compound (op : Connective) (left right : Predicate Leaf)
deriving Inhabited

namespace Predicate

variable {Leaf : Type}

/-- What has been read between two parentheses, up to the last connective. -/
structure Group (Leaf : Type) where
  /-- The part that the last `OR` ended. -/
  alternatives : Option (Predicate Leaf)
  /-- The part that the last `AND` ended, since that `OR`. -/
  factors : Option (Predicate Leaf)
deriving Inhabited

/-- A predicate after what stands on its left, if anything does. -/
def after (op : Connective) (left : Option (Predicate Leaf)) (right : Predicate Leaf) :
    Predicate Leaf :=
  left.elim right (compound op · right)

/-- The group with its last operand. -/
def Group.close (g : Group Leaf) (operand : Predicate Leaf) : Predicate Leaf :=
  after .or g.alternatives (after .and g.factors operand)

/-- The group after its last operand and a connective. -/
def Group.extend (g : Group Leaf) (op : Connective) (operand : Predicate Leaf) : Group Leaf :=
  match op with
  | .and => { g with factors := some (after .and g.factors operand) }
  | .or => { alternatives := some (g.close operand), factors := none }

/-- A position in the text of a condition set. -/
structure Reading (Leaf : Type) where
  /-- The groups around the innermost open one, inside out. -/
  outer : List (Group Leaf)
  group : Group Leaf
  /-- The operand just read; absent where one is expected. -/
  operand : Option (Predicate Leaf)
deriving Inhabited

namespace Reading

/-- Nothing has been read. -/
def start : Reading Leaf := { outer := [], group := ⟨none, none⟩, operand := none }

/-- Reads one more item, if it can stand here. -/
def step (r : Reading Leaf) (item : Lexeme Leaf) : Option (Reading Leaf) :=
  match item, r.operand with
  | .leaf c, none => some { r with operand := some (.leaf c) }
  | .opening, none => some { outer := r.group :: r.outer, group := ⟨none, none⟩, operand := none }
  | .connective op, some operand =>
      some { r with group := r.group.extend op operand, operand := none }
  | .closing, some operand =>
      match r.outer with
      | [] => none
      | g :: rest => some { outer := rest, group := g, operand := some (r.group.close operand) }
  | _, _ => none

/-- The predicate at the end of a text. -/
def finish? (r : Reading Leaf) : Option (Predicate Leaf) :=
  if r.outer.isEmpty then r.operand.map r.group.close else none

end Reading

/-- The predicate that a sequence of items says. -/
def ofLexemes? (items : List (Lexeme Leaf)) : Option (Predicate Leaf) :=
  (items.foldlM Reading.step .start).bind Reading.finish?

end Predicate

end SqlStore
