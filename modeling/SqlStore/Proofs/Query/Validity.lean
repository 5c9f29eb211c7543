/-
# Which queries compile

Only a membership test can be refused: its operand has to be a list of one kind.  A set of
conditions is refused with the error of the leftmost of them that is, whatever the tree is like,
and a statement with the error of its conditions; an update with nothing to assign is refused
before that.

* `OperandFault`, `Condition.Fault` : what can be wrong with an operand, and with a condition;
* `Condition.toSql_eq_error_iff`, `ConditionSet.toSql_eq_error_iff` : when there is no text, and
  why;
* `compilation_fails_iff` : the sets, what they are combined to, and the statements.
-/
import SqlStore.Statement
import SqlStore.Proofs.Result

namespace SqlStore

/-! ## Operands -/

/-- What is wrong with the operand of a membership test: it is missing, it is no list, or it is a
list with an element of another kind than the first one, of which the first such counts. -/
inductive OperandFault : Option Value → QueryError → Prop
  | missing : OperandFault none (.operandNotList none)
  | scalar (v : Value) (hv : v.kind ≠ .list) :
      OperandFault (some v) (.operandNotList (some v.kind))
  | mixed (first : Value) (same : List Value) (other : Value) (rest : List Value)
      (hsame : ∀ v ∈ same, v.kind = first.kind) (hother : other.kind ≠ first.kind) :
      OperandFault (some (.list (first :: (same ++ other :: rest))))
        (.mixedList first.kind other.kind)

/-- That is what an operand is refused for. -/
theorem listOperand_eq_error_iff {operand : Option Value} {e : QueryError} :
    listOperand operand = .error e ↔ OperandFault operand e := by
  constructor
  · intro h
    unfold listOperand at h
    split at h
    · cases h
    · rename_i first rest
      split at h
      · rename_i other hfind
        cases h
        obtain ⟨hother, same, later, rfl, hsame⟩ := List.find?_eq_some_iff_append.mp hfind
        exact .mixed first same other later (by simpa using hsame) (by simpa using hother)
      · cases h
    · rename_i hempty hcons
      cases h
      cases operand with
      | none => exact .missing
      | some v =>
          refine .scalar v fun hlist => ?_
          cases v with
          | list items => cases items <;> simp_all
          | _ => cases hlist
  · rintro (_ | ⟨v, hv⟩ | ⟨first, same, other, rest, hsame, hother⟩)
    · rfl
    · cases v with
      | list items => exact absurd rfl hv
      | _ => rfl
    · have hfind : (same ++ other :: rest).find? (fun v => v.kind != first.kind) = some other := by
        refine List.find?_eq_some_iff_append.mpr ⟨by simpa using hother, same, rest, rfl, ?_⟩
        simpa using hsame
      unfold listOperand
      simp only [hfind]

/-- A list of one kind is an operand, and nothing else is. -/
theorem exists_operandFault_iff {operand : Option Value} : (∃ e, OperandFault operand e) ↔
    ∀ items, operand = some (.list items) → ∃ a ∈ items, ∃ b ∈ items, a.kind ≠ b.kind := by
  constructor
  · rintro ⟨e, _ | ⟨v, hv⟩ | ⟨first, same, other, rest, hsame, hother⟩⟩
    · rintro items ⟨⟩
    · rintro items ⟨⟩
      exact absurd rfl hv
    · rintro items ⟨⟩
      exact ⟨other, by simp, first, by simp, hother⟩
  · intro h
    cases hoperand : listOperand operand with
    | error e => exact ⟨e, listOperand_eq_error_iff.mp hoperand⟩
    | ok items =>
        unfold listOperand at hoperand
        split at hoperand
        · obtain ⟨a, ha, -⟩ := h [] rfl
          cases ha
        · rename_i first rest
          split at hoperand
          · cases hoperand
          · rename_i hfind
            have hkind : ∀ v ∈ first :: rest, v.kind = first.kind := by
              simpa using List.find?_eq_none.mp hfind
            obtain ⟨a, ha, b, hb, hne⟩ := h (first :: rest) rfl
            exact absurd ((hkind a ha).trans (hkind b hb).symm) hne
        · cases hoperand

/-- A fault is one of an argument and does not concern a row. -/
theorem OperandFault.isDecode {operand : Option Value} {e : QueryError}
    (h : OperandFault operand e) : e.isDecode = false := by
  cases h <;> rfl

/-! ## Conditions -/

/-- The condition tests for membership, but not in a list of one kind. -/
def Condition.IsIllTyped (c : Condition) : Prop :=
  (c.operation = .inList ∨ c.operation = .notInList) ∧
    ∀ items, c.value = some (.list items) → ∃ a ∈ items, ∃ b ∈ items, a.kind ≠ b.kind

/-- What is wrong with a condition. -/
def Condition.Fault (c : Condition) (e : QueryError) : Prop :=
  (c.operation = .inList ∨ c.operation = .notInList) ∧ OperandFault c.value e

namespace Condition

/-- Those are the conditions with a fault. -/
theorem isIllTyped_iff {c : Condition} : c.IsIllTyped ↔ ∃ e, c.Fault e := by
  unfold IsIllTyped Fault
  rw [← exists_operandFault_iff, exists_and_left]

/-- A condition is refused for its fault. -/
theorem toSql_eq_error_iff {c : Condition} {e : QueryError} : c.toSql = .error e ↔ c.Fault e := by
  have hother (text : String) (htext : c.toSql = .ok text)
      (hoperation : ¬ (c.operation = .inList ∨ c.operation = .notInList)) :
      c.toSql = .error e ↔ c.Fault e := by
    rw [htext]
    exact iff_of_false nofun fun h => hoperation h.1
  obtain ⟨table, key, operation, value⟩ := c
  cases operation with
  | inList | notInList =>
      refine map_eq_error_iff.trans (listOperand_eq_error_iff.trans ?_)
      simp [Fault]
  | equal | notEqual => cases value <;> exact hother _ rfl (by simp)
  | greaterThan | lessThan | isNull | like => exact hother _ rfl (by simp)

/-- The table of its column has no part in whether a condition has a text. -/
theorem toSql_qualified_eq_error_iff {c : Condition} {table : String} {e : QueryError} :
    (c.qualified table).toSql = .error e ↔ c.toSql = .error e := by
  rw [toSql_eq_error_iff, toSql_eq_error_iff]
  rfl

end Condition

/-! ## Sets -/

namespace ConditionSet

/-- The leftmost of the conditions that are ill-typed has no text, for that reason. -/
def FirstFault (set : ConditionSet) (e : QueryError) : Prop :=
  ∃ before c after, set.leaves = before ++ c :: after ∧ (∀ d ∈ before, ¬ d.IsIllTyped) ∧
    c.toSql = .error e

variable {set left right : ConditionSet} {e : QueryError}

/-- A compound set is refused for its left side, or else for its right one. -/
theorem toSql_compound_eq_error_iff (op : Connective) (capsuled : Bool) :
    (compound op left right capsuled).toSql = .error e ↔
      left.toSql = .error e ∨ (∃ text, left.toSql = .ok text) ∧ right.toSql = .error e :=
  bind_map_eq_error_iff

/-- Parentheses have no part in it. -/
theorem toSql_capsule_eq_error_iff : set.capsule.toSql = .error e ↔ set.toSql = .error e := by
  cases set with
  | empty | single c => rfl
  | compound op left right capsuled =>
      exact (toSql_compound_eq_error_iff op true).trans
        (toSql_compound_eq_error_iff op capsuled).symm

/-- Nor has the table of the columns. -/
theorem toSql_qualified_eq_error_iff (table : String) :
    (set.qualified table).toSql = .error e ↔ set.toSql = .error e := by
  induction set generalizing e with
  | empty => rfl
  | single c => exact Condition.toSql_qualified_eq_error_iff
  | compound op left right capsuled ihLeft ihRight =>
      rw [qualified, toSql_compound_eq_error_iff, toSql_compound_eq_error_iff, ihLeft, ihRight,
        exists_ok_iff, exists_ok_iff]
      simp only [ne_eq, ihLeft]

/-- Two sets that are combined are refused for the first one, or else for the second one. -/
theorem toSql_combine_eq_error_iff (op : Connective) :
    (combine op left right).toSql = .error e ↔
      left.toSql = .error e ∨ (∃ text, left.toSql = .ok text) ∧ right.toSql = .error e := by
  rw [combine.eq_def]
  split
  · exact ⟨fun h => .inr ⟨⟨"", rfl⟩, h⟩, fun h => h.elim nofun And.right⟩
  · exact ⟨.inl, fun h => h.elim id nofun⟩
  · rw [toSql_compound_eq_error_iff, exists_ok_iff, exists_ok_iff]
    simp only [ne_eq, toSql_capsule_eq_error_iff]

/-- There is no text of a set if there is none of one of its conditions, and for that reason. -/
theorem toSql_eq_error_iff_leaves :
    set.toSql = .error e ↔ set.leaves.mapM Condition.toSql = .error e := by
  induction set generalizing e with
  | empty => exact iff_of_false nofun nofun
  | single c =>
      have hleaves : (single c).leaves.mapM Condition.toSql = c.toSql.map fun text => [text] := by
        rw [leaves, List.mapM_cons]
        cases c.toSql <;> rfl
      rw [hleaves, map_eq_error_iff]
      rfl
  | compound op left right capsuled ihLeft ihRight =>
      rw [leaves, List.mapM_append, bind_map_eq_error_iff, toSql_compound_eq_error_iff, ihLeft,
        ihRight, exists_ok_iff, exists_ok_iff]
      simp only [ne_eq, ihLeft]

/-- A set is refused for the leftmost of its conditions that is. -/
theorem toSql_eq_error_iff : set.toSql = .error e ↔ set.FirstFault e := by
  rw [toSql_eq_error_iff_leaves, mapM_eq_error_iff]
  unfold FirstFault
  simp only [exists_ok_iff, Condition.isIllTyped_iff, not_exists, ne_eq,
    Condition.toSql_eq_error_iff]

/-- So it is refused if one of them is ill-typed. -/
theorem exists_toSql_eq_error_iff :
    (∃ e, set.toSql = .error e) ↔ ∃ c ∈ set.leaves, c.IsIllTyped := by
  simp only [toSql_eq_error_iff_leaves, exists_mapM_eq_error_iff, Condition.isIllTyped_iff,
    Condition.toSql_eq_error_iff]

/-- The error is one of an argument. -/
theorem isDecode_of_toSql_eq_error (h : set.toSql = .error e) : e.isDecode = false := by
  obtain ⟨before, c, after, -, -, hc⟩ := toSql_eq_error_iff.mp h
  exact (Condition.toSql_eq_error_iff.mp hc).2.isDecode

end ConditionSet

/-! ## Statements -/

variable {e : QueryError}

/-- There is a `WHERE` clause if there is a text of the conditions. -/
theorem whereClause_eq_error_iff {set : ConditionSet} :
    whereClause set = .error e ↔ set.toSql = .error e := map_eq_error_iff

/-- What a statement makes of its `WHERE` clause has no part in it. -/
theorem toSql_eq_error_iff_of_whereClause {result : Except QueryError String} {set : ConditionSet}
    {make : String → String} (h : result = do return make (← whereClause set)) :
    result = .error e ↔ set.toSql = .error e := by
  have hmap : result = (whereClause set).map make := h.trans (by cases whereClause set <;> rfl)
  rw [hmap, map_eq_error_iff, whereClause_eq_error_iff]

theorem Select.toSql_eq_error_iff {s : Select} :
    s.toSql = .error e ↔ s.filter.conditions.toSql = .error e :=
  toSql_eq_error_iff_of_whereClause rfl

theorem Delete.toSql_eq_error_iff {d : Delete} :
    d.toSql = .error e ↔ d.conditions.toSql = .error e :=
  toSql_eq_error_iff_of_whereClause rfl

theorem Join.toSql_eq_error_iff {j : Join} :
    j.toSql = .error e ↔ j.conditions.toSql = .error e :=
  toSql_eq_error_iff_of_whereClause rfl

/-- An update with nothing to assign is refused for that, whatever its conditions are. -/
theorem Update.toSql_eq_error_iff {u : Update} : u.toSql = .error e ↔
    u.replace = [] ∧ e = .noAssignments u.table ∨
      u.replace ≠ [] ∧ u.conditions.toSql = .error e := by
  by_cases hempty : u.replace = []
  · have htext : u.toSql = .error (.noAssignments u.table) := by
      rw [toSql, hempty]
      rfl
    rw [htext]
    simp [hempty, eq_comm]
  · have hconditions : u.toSql = .error e ↔ u.conditions.toSql = .error e :=
      toSql_eq_error_iff_of_whereClause (if_neg (mt List.isEmpty_iff.mp hempty))
    rw [hconditions]
    simp [hempty]

/-- What is left to assign are the equalities. -/
theorem Update.replace_new_eq_nil_iff {table : String} {replace : List Condition} :
    (Update.new table replace).replace = [] ↔ ∀ c ∈ replace, c.operation ≠ .equal := by
  simp [Update.new, Assignment.ofCondition?, Operator.isEqual]

/-- A condition has no text if it has a fault, and a set has none if one of its conditions is
ill-typed: it is refused, as an invalid argument, with the error of the leftmost such condition.
The tables of the columns and the parentheses have no part in that, and two sets that are combined
are refused for the first one, or else for the second one.  A select, a delete and a join are
refused as their conditions are; so is an update, but first of all if it has nothing to assign. -/
theorem compilation_fails_iff (e : QueryError) :
    (∀ c : Condition, c.toSql = .error e ↔ c.Fault e) ∧
    (∀ set : ConditionSet,
      (set.toSql = .error e ↔ set.FirstFault e ∧ e.kind = "InvalidArgument") ∧
      ((∃ e, set.toSql = .error e) ↔ ∃ c ∈ set.leaves, c.IsIllTyped) ∧
      (set.capsule.toSql = .error e ↔ set.toSql = .error e) ∧
      ∀ table, (set.qualified table).toSql = .error e ↔ set.toSql = .error e) ∧
    (∀ a b : ConditionSet,
      ((a.and b).toSql = .error e ↔
        a.toSql = .error e ∨ (∃ text, a.toSql = .ok text) ∧ b.toSql = .error e) ∧
      ((a.or b).toSql = .error e ↔
        a.toSql = .error e ∨ (∃ text, a.toSql = .ok text) ∧ b.toSql = .error e)) ∧
    (∀ s : Select, s.toSql = .error e ↔ s.filter.conditions.toSql = .error e) ∧
    (∀ d : Delete, d.toSql = .error e ↔ d.conditions.toSql = .error e) ∧
    (∀ j : Join, j.toSql = .error e ↔ j.conditions.toSql = .error e) ∧
    (∀ u : Update, u.toSql = .error e ↔
      u.replace = [] ∧ e = .noAssignments u.table ∨
        u.replace ≠ [] ∧ u.conditions.toSql = .error e) ∧
    ∀ table replace, (Update.new table replace).replace = [] ↔
      ∀ c ∈ replace, c.operation ≠ .equal := by
  refine ⟨fun c => Condition.toSql_eq_error_iff, fun set => ?_, fun a b => ?_,
    fun s => s.toSql_eq_error_iff, fun d => d.toSql_eq_error_iff, fun j => j.toSql_eq_error_iff,
    fun u => u.toSql_eq_error_iff, fun table replace => Update.replace_new_eq_nil_iff⟩
  · refine ⟨?_, set.exists_toSql_eq_error_iff, set.toSql_capsule_eq_error_iff,
      set.toSql_qualified_eq_error_iff⟩
    rw [set.toSql_eq_error_iff]
    refine ⟨fun h => ⟨h, ?_⟩, And.left⟩
    rw [QueryError.kind, set.isDecode_of_toSql_eq_error (set.toSql_eq_error_iff.mpr h)]
    rfl
  · exact ⟨a.toSql_combine_eq_error_iff .and, a.toSql_combine_eq_error_iff .or⟩

-- Of two membership tests in no list of one kind the left one is told, and an update that assigns
-- nothing is refused before that.
example :
    let ages : Condition := .on "age" .inList (some (.list [.integer 1, .integer 2, .text "3"]))
    let names : Condition := .on "name" .notInList none
    let set := (ConditionSet.single (.on "age" .isNull none)).or
      ((ConditionSet.single ages).and (.single names))
    set.toSql = .error (.mixedList .integer .text) ∧
      ((Update.new "users" [.on "age" .like none]).filter set).toSql
        = .error (.noAssignments "users") := ⟨rfl, rfl⟩

end SqlStore
