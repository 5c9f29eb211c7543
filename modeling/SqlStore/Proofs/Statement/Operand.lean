/-
# The redacted texts of conditions

Every place where a condition shows a value shows its literal, alone or among others, and what
stands around the literals is plain if the names are.

* `Value.redacts_toSql`, `Value.redacts_literal` : values;
* `Condition.redacts_toSql`, `ConditionSet.redacts_toSql` : conditions and their sets;
* `redacts_whereClause` : the clause of a statement that has them.
-/
import SqlStore.Proofs.Statement.Redact
import SqlStore.Proofs.Text.Redaction

namespace SqlStore

/-! ## Values -/

namespace Value

/-- Literals with commas between them. -/
theorem redacts_joined {vs : List Value} (h : ∀ v ∈ vs, Redacts 0 0 v.toSql v.redact.toSql) :
    Redacts 0 0 (joinLiterals vs) (joinLiterals (vs.map redact)) := by
  have hsep : Plain 0 0 ", ".toList := by decide
  rw [joinLiterals, joinLiterals, List.map_map]
  exact .intercalate_map hsep (by decide) h

/-- The literal of every value. -/
theorem redacts_toSql : ∀ v : Value, Redacts 0 0 v.toSql v.redact.toSql
  | .integer n => by
      rw [redact, toSql]
      exact (plain_toString_int n.toInt 0).redacts
  | .real x => by
      rw [redact, toSql]
      exact (x.plain_literal 0).redacts
  | .text s => by
      rw [redact, toSql, toSql]
      exact redacts_quoted s 0
  | .boolean b => by
      rw [redact, toSql]
      cases b
      · exact Plain.redacts (by decide)
      · exact Plain.redacts (by decide)
  | .list items => by
      rw [redact, toSql, toSql, literals_eq_map, literals_eq_map, redactAll_eq_map]
      exact (redacts_joined fun v _ => v.redacts_toSql).parens

/-- The literal of a value that may be absent. -/
theorem redacts_literal (v : Option Value) :
    Redacts 0 0 (literal v) (literal (v.map redact)) := by
  cases v with
  | none => exact Plain.redacts (by decide)
  | some v => exact v.redacts_toSql

end Value

/-! ## Conditions -/

/-- Redaction keeps the elements of a list operand, and whether they are of one kind. -/
theorem listOperand_redact (operand : Option Value) :
    listOperand (operand.map Value.redact) = (listOperand operand).map (·.map Value.redact) := by
  cases operand with
  | none => rfl
  | some v =>
      cases v with
      | list items =>
          cases items with
          | nil => rfl
          | cons first rest =>
              -- The search for an element of another kind looks at kinds alone.
              have hkind : ((fun v : Value => v.kind != first.redact.kind) ∘ Value.redact)
                  = fun v => v.kind != first.kind := by
                funext v
                show (v.redact.kind != first.redact.kind) = _
                rw [v.kind_redact, first.kind_redact]
              rw [Option.map_some, Value.redact, Value.redactAll, Value.redactAll_eq_map,
                listOperand, listOperand, List.find?_map, hkind]
              cases rest.find? fun v => v.kind != first.kind with
              | none => rfl
              | some other =>
                  show Except.error (QueryError.mixedList first.redact.kind other.redact.kind) = _
                  rw [first.kind_redact, other.kind_redact]
                  rfl
      | integer n => rfl
      | real x => rfl
      | text s => rfl
      | boolean b => rfl

namespace Condition

variable {c : Condition}

/-- A column is plain, after its table or alone. -/
theorem plain_column (hnamed : ∀ name ∈ c.names, IsWord name) : Plain 0 0 c.column.toList := by
  obtain ⟨table, key, operation, value⟩ := c
  have hkey : IsWord key := hnamed key (by simp [names])
  cases table with
  | none => exact hkey.plain 0
  | some table =>
      have htable : IsWord table := hnamed table (by simp [names])
      have hpoint : Plain 0 0 ".".toList := by decide
      rw [column, String.toList_append, String.toList_append]
      exact ((htable.plain 0).append hpoint).append (hkey.plain 0)

/-- A comparison with the literal of the operand. -/
theorem redacts_comparison (hnamed : ∀ name ∈ c.names, IsWord name) {symbol : String}
    (hsymbol : Plain 0 0 symbol.toList) :
    Redacts 0 0 (c.column ++ " " ++ symbol ++ " " ++ Value.literal c.value)
      (c.column ++ " " ++ symbol ++ " " ++ Value.literal (c.value.map Value.redact)) := by
  have hblank : Plain 0 0 " ".toList := by decide
  refine .plain_append (j := 0) ?_ (Value.redacts_literal c.value)
  simp only [String.toList_append]
  exact (((plain_column hnamed).append hblank).append hsymbol).append hblank

/-- A membership test. -/
theorem redacts_membership (hnamed : ∀ name ∈ c.names, IsWord name) {keyword constant : String}
    (hkeyword : Plain 0 0 keyword.toList) (hconstant : Plain 0 0 constant.toList)
    (items : List Value) :
    Redacts 0 0 (membership c.column keyword constant items)
      (membership c.column keyword constant (items.map Value.redact)) := by
  cases items with
  | nil => exact hconstant.redacts
  | cons v vs =>
      have hblank : Plain 0 0 " ".toList := by decide
      have hopening : Plain 0 1 " (".toList := by decide
      have hclosing : Plain 1 0 ")".toList := by decide
      have hitems : Redacts 1 1 (Value.joinLiterals (v :: vs))
          (Value.joinLiterals ((v :: vs).map Value.redact)) :=
        (Value.redacts_joined fun w _ => w.redacts_toSql).deepen 1
      show Redacts 0 0 (c.column ++ " " ++ keyword ++ " (" ++ Value.joinLiterals (v :: vs) ++ ")")
        (c.column ++ " " ++ keyword ++ " (" ++ Value.joinLiterals ((v :: vs).map Value.redact) ++
          ")")
      refine .append_plain (.plain_append ?_ hitems) hclosing
      simp only [String.toList_append]
      exact (((plain_column hnamed).append hblank).append hkeyword).append hopening

/-- The text of a condition on names; the condition without its texts fails where it fails. -/
theorem redacts_toSql (hnamed : ∀ name ∈ c.names, IsWord name) :
    Alike (Redacts 0 0) c.toSql c.redact.toSql := by
  have hcolumn := plain_column hnamed
  have hnull : Redacts 0 0 (c.column ++ " IS NULL") (c.column ++ " IS NULL") :=
    hcolumn.redacts.append_plain (by decide)
  have hlist : ∀ keyword constant : String, Plain 0 0 keyword.toList → Plain 0 0 constant.toList →
      Alike (Redacts 0 0) ((listOperand c.value).map (membership c.column keyword constant))
        ((listOperand (c.value.map Value.redact)).map (membership c.column keyword constant)) := by
    intro keyword constant hkeyword hconstant
    rw [listOperand_redact]
    cases listOperand c.value with
    | ok items => exact .ok (redacts_membership hnamed hkeyword hconstant items)
    | error e => exact .error e
  have hcompare : ∀ symbol : String, Plain 0 0 symbol.toList →
      Alike (Redacts 0 0)
        (Except.ok (c.column ++ " " ++ symbol ++ " " ++ Value.literal c.value) :
          Except QueryError String)
        (.ok (c.column ++ " " ++ symbol ++ " " ++ Value.literal (c.value.map Value.redact))) :=
    fun symbol hsymbol => .ok (redacts_comparison hnamed hsymbol)
  obtain ⟨table, key, operation, value⟩ := c
  cases operation with
  | equal =>
      cases value with
      | none => exact .ok hnull
      | some v => exact hcompare "=" (by decide)
  | notEqual =>
      cases value with
      | none => exact .ok (hcolumn.redacts.append_plain (by decide))
      | some v => exact hcompare "!=" (by decide)
  | greaterThan orEqual =>
      cases orEqual with
      | false => exact hcompare ">" (by decide)
      | true => exact hcompare ">=" (by decide)
  | lessThan orEqual =>
      cases orEqual with
      | false => exact hcompare "<" (by decide)
      | true => exact hcompare "<=" (by decide)
  | inList => exact hlist "IN" "0 = 1" (by decide) (by decide)
  | notInList => exact hlist "NOT IN" "1 = 1" (by decide) (by decide)
  | isNull => exact .ok hnull
  | like => exact hcompare "LIKE" (by decide)

end Condition

/-! ## Condition sets -/

namespace ConditionSet

/-- Parentheses or none around a text. -/
theorem redacts_wrap {s t : String} (h : Redacts 0 0 s t) (capsuled : Bool) :
    Redacts 0 0 (wrap capsuled s) (wrap capsuled t) := by
  cases capsuled with
  | false => exact h
  | true => exact h.parens

/-- The text of a set of conditions on names. -/
theorem redacts_toSql {set : ConditionSet} (hnamed : ∀ name ∈ set.names, IsWord name) :
    Alike (Redacts 0 0) set.toSql set.redact.toSql := by
  induction set with
  | empty => exact .ok (Plain.redacts rfl)
  | single c =>
      refine Condition.redacts_toSql fun name hname => hnamed name ?_
      simpa [names, leaves] using hname
  | compound op left right capsuled ihLeft ihRight =>
      have hblank : Plain 0 0 " ".toList := by decide
      have hkeyword : Plain 0 0 op.keyword.toList := by cases op <;> decide
      rw [names_compound] at hnamed
      obtain ⟨hleft, hright⟩ := List.forall_mem_append.mp hnamed
      refine (ihLeft hleft).bind fun l l' hl => (ihRight hright).bind fun r r' hr => ?_
      refine .ok (redacts_wrap ?_ capsuled)
      exact ((hl.append_plain hblank).append_plain hkeyword).join hblank (by decide) hr

end ConditionSet

/-- The `WHERE` clause, which can stand behind a literal. -/
theorem redacts_whereClause {set : ConditionSet} (hnamed : ∀ name ∈ set.names, IsWord name) :
    Alike (fun s t => Redacts 0 0 s t ∧ Unquoted s ∧ Unquoted t) (whereClause set)
      (whereClause set.redact) := by
  refine (ConditionSet.redacts_toSql hnamed).map fun s t h => ?_
  have hwhere : Plain 0 0 " WHERE ".toList := by decide
  have hunquoted := Unquoted.of_plain hwhere
  -- A set has an empty text exactly if its redaction has one, so that both have the clause or none.
  rw [← h.isEmpty_eq]
  cases s.isEmpty with
  | true => exact ⟨Plain.redacts rfl, Unquoted.of_plain (i := 0) (j := 0) rfl,
      Unquoted.of_plain (i := 0) (j := 0) rfl⟩
  | false =>
      exact ⟨.plain_append hwhere h, hunquoted.append (by decide) s, hunquoted.append (by decide) t⟩

end SqlStore
