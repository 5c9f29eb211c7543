/-
# What the text of a condition means to the store

The test of a condition depends on nothing that the text of the condition does not tell: a literal
denotes a cell, a clause asks for a test, and the items of a set group by the rules of the text
alone.

* `Literal.cell?`, `Clause.test` : what literals and clauses mean;
* `Predicate.ofLexemes?_map` : items group whatever their leaves are;
* `ConditionSet.test_eq` : the test of a condition set is what the items of its text mean.
-/
import SqlStore.Proofs.Statement.Sentence
import SqlStore.Proofs.Store.Number

namespace SqlStore

/-! ## Literals -/

namespace Literal

/-- The cell that a literal denotes.  Parentheses around one literal change nothing. -/
def cell? : Literal → Option Cell
  | null => some .null
  | integer n => some (.integer (Int64.ofInt n))
  | real digits => numberOfText? digits
  | text s => if s.contains '\x00' then none else some (.text s)
  | list [v] => v.cell?
  | list _ => none

/-- What the literal of a value says denotes the cell of the value. -/
theorem cell?_ofValue : ∀ v : Value, (ofValue v).cell? = Cell.ofLiteral? v
  | .integer n => by
      rw [ofValue, cell?, Cell.ofLiteral?, Int64.ofInt_toInt]
  | .real x => by
      rw [ofValue, Cell.ofLiteral?]
      -- A number that is not finite is written as `NULL`, others as digits that read back.
      cases hfinite : x.isFinite with
      | false => rfl
      | true =>
          rw [if_pos rfl, if_pos rfl, cell?, Double.literal, if_pos hfinite,
            Double.numberOfText?_text literalLayout hfinite]
  | .text s => by rw [ofValue, cell?, Cell.ofLiteral?]
  | .boolean b => by
      rw [ofValue, cell?, Cell.ofLiteral?]
      cases b <;> rfl
  | .list [] => rfl
  | .list [v] => by
      rw [ofValue, ofValues, ofValues, cell?, Cell.ofLiteral?, cell?_ofValue v]
  | .list (_ :: _ :: _) => rfl

theorem cell?_ofOption (v : Option Value) : (ofOption v).cell? = Cell.ofOperand? v := by
  cases v with
  | none => rfl
  | some v => exact cell?_ofValue v

theorem mapM_cell?_ofValues (vs : List Value) :
    (ofValues vs).mapM cell? = vs.mapM Cell.ofLiteral? := by
  induction vs with
  | nil => rfl
  | cons v vs ih => rw [ofValues, List.mapM_cons, List.mapM_cons, cell?_ofValue, ih]

end Literal

/-! ## Clauses -/

/-- The position of the column that a text names. -/
def ColumnName.position (scope : Scope) (c : ColumnName) : Except Fault Nat :=
  scope.position c.table c.name

/-- The test that a clause asks for.  Membership in what is no list has no text. -/
def Clause.test (scope : Scope) : Clause → Except Fault Test
  | constant left right => .ok (.constant (left.cell? == right.cell?))
  | isNull column negated => return .isNull (← column.position scope) negated
  | compare .like column operand =>
      return .like (← column.position scope) (← orMalformed operand.cell?)
  | compare .inList _ _ | compare .notInList _ _ => .error .malformed
  | compare op column operand => do
      let i ← column.position scope
      return .compare op i ((scope.affinity i).operand (← orMalformed operand.cell?))
  | member column items negated => do
      let cells ← orMalformed (items.mapM Literal.cell?)
      let i ← column.position scope
      return .member i (cells.map (scope.affinity i).operand) negated

/-- A membership test is one of the cells of its list, or a constant if that is empty. -/
theorem Clause.test_ofMembership (scope : Scope) (column : ColumnName) (negated : Bool)
    (vs : List Value) :
    (ofMembership column negated vs).test scope = do
      let cells ← orMalformed (vs.mapM Cell.ofLiteral?)
      if cells.isEmpty then return .constant negated
      let i ← column.position scope
      return .member i (cells.map (scope.affinity i).operand) negated := by
  cases vs with
  | nil => cases negated <;> rfl
  | cons v vs =>
      rw [ofMembership, test, Literal.mapM_cell?_ofValues]
      · rw [List.mapM_cons]
        cases Cell.ofLiteral? v with
        | none => rfl
        | some cell => cases vs.mapM Cell.ofLiteral? <;> rfl
      · exact List.cons_ne_nil v vs

/-- The test of a condition is what its text asks for. -/
theorem Clause.test_ofCondition (scope : Scope) (c : Condition) :
    (ofCondition c).test scope = c.resolve scope := by
  obtain ⟨table, key, op, value⟩ := c
  cases op with
  | equal | notEqual =>
      cases value with
      | none => rfl
      | some v => rw [ofCondition, test, Literal.cell?_ofOption] <;> first | rfl | exact nofun
  | greaterThan | lessThan =>
      rw [ofCondition, test, Literal.cell?_ofOption] <;> first | rfl | exact nofun
  | inList | notInList =>
      cases value with
      | none => rfl
      | some v =>
          cases v with
          | list items => exact test_ofMembership scope ⟨table, key⟩ _ items
          | integer | real | text | boolean => rfl
  | isNull => rfl
  | like =>
      rw [ofCondition, test, Literal.cell?_ofOption]
      rfl

/-! ## Condition sets -/

namespace Predicate

section

variable {α β : Type} (f : α → β)

/-- A group with other leaves. -/
def Group.map (g : Group α) : Group β :=
  { alternatives := g.alternatives.map (Predicate.map f)
    factors := g.factors.map (Predicate.map f) }

/-- A position with other leaves. -/
def Reading.map (r : Reading α) : Reading β :=
  { outer := r.outer.map (Group.map f)
    group := r.group.map f
    operand := r.operand.map (Predicate.map f) }

theorem after_map (op : Connective) (left : Option (Predicate α)) (right : Predicate α) :
    after op (left.map (Predicate.map f)) (right.map f) = (after op left right).map f := by
  cases left <;> rfl

theorem Group.close_map (g : Group α) (p : Predicate α) :
    (g.map f).close (p.map f) = (g.close p).map f := by
  rw [close, close, Group.map, after_map, after_map]

theorem Group.extend_map (g : Group α) (op : Connective) (p : Predicate α) :
    (g.map f).extend op (p.map f) = (g.extend op p).map f := by
  cases op with
  | and => simp only [extend, Group.map, after_map, Option.map_some]
  | or =>
      rw [extend, close_map]
      rfl

/-- Which items can stand where has nothing to do with the leaves. -/
theorem Reading.step_map (r : Reading α) (item : Lexeme α) :
    (r.map f).step (item.map f) = (r.step item).map (Reading.map f) := by
  obtain ⟨outer, group, operand⟩ := r
  cases item with
  | leaf a => cases operand <;> rfl
  | opening => cases operand <;> rfl
  | connective op =>
      cases operand with
      | none => rfl
      | some p => simp [step, Lexeme.map, Reading.map, Group.extend_map]
  | closing =>
      cases operand with
      | none => cases outer <;> rfl
      | some p =>
          cases outer with
          | nil => rfl
          | cons g outer => simp [step, Lexeme.map, Reading.map, Group.close_map]

/-- Items group as they do, whatever their leaves are. -/
theorem ofLexemes?_map (items : List (Lexeme α)) :
    ofLexemes? (items.map (Lexeme.map f)) = (ofLexemes? items).map (Predicate.map f) := by
  have hrun (r : Reading α) : (items.map (Lexeme.map f)).foldlM Reading.step (r.map f)
      = (items.foldlM Reading.step r).map (Reading.map f) := by
    induction items generalizing r with
    | nil => rfl
    | cons item items ih =>
        rw [List.map_cons, List.foldlM_cons, List.foldlM_cons, Reading.step_map]
        cases r.step item with
        | none => rfl
        | some next => exact ih next
  have hfinish (r : Reading α) : (r.map f).finish? = r.finish?.map (Predicate.map f) := by
    obtain ⟨outer, group, operand⟩ := r
    cases outer with
    | nil => cases operand <;> simp [Reading.finish?, Reading.map, Group.close_map]
    | cons g outer => rfl
  rw [ofLexemes?, ofLexemes?, show (Reading.start : Reading β) = Reading.start.map f from rfl, hrun]
  cases items.foldlM Reading.step .start with
  | none => rfl
  | some r => exact hfinish r

end

/-- The test of a predicate over clauses. -/
def said (scope : Scope) : Predicate Clause → Except Fault Test
  | leaf c => c.test scope
  | compound op left right => do
      let l ← left.said scope
      let r ← right.said scope
      return .compound op l r

theorem said_map (scope : Scope) (p : Predicate Condition) :
    (p.map Clause.ofCondition).said scope = p.resolve scope := by
  induction p with
  | leaf c => exact Clause.test_ofCondition scope c
  | compound op left right ihl ihr => rw [map, said, resolve, ihl, ihr]

end Predicate

/-- The test that the items of a text ask for; a text without items asks for nothing. -/
def itemsTest (scope : Scope) (items : List (Lexeme Clause)) : Except Fault Test :=
  if items.isEmpty then .ok (.constant true)
  else do (← orMalformed (Predicate.ofLexemes? items)).said scope

/-- Only the empty set has no items. -/
theorem ConditionSet.isEmpty_said (set : ConditionSet) : set.said.isEmpty = set.isEmpty := by
  cases set with
  | empty => rfl
  | single c => rfl
  | compound op left right capsuled => cases capsuled <;> simp [said, lexemes, isEmpty]

/-- The test of a set is what the items of its text ask for. -/
theorem ConditionSet.test_eq (scope : Scope) (set : ConditionSet) :
    set.test scope = itemsTest scope set.said := by
  rw [test, itemsTest, isEmpty_said, said, Predicate.ofLexemes?_map]
  cases Predicate.ofLexemes? set.lexemes with
  | none => rfl
  | some p =>
      show (if _ then _ else p.resolve scope)
        = if _ then _ else (p.map Clause.ofCondition).said scope
      rw [Predicate.said_map]

end SqlStore
