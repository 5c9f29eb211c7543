/-
# Equality with what is stored

A column makes the same of a literal that is inserted and of one that it is compared with, so that
an equality finds what has been stored.  A real that is not finite is the exception: its literal is
`NULL`, and nothing is stored, but a condition asks for nothing only where it has no operand, and
with such a real it compares with `NULL`.

* `Affinity.Rounds` : the cells that a column stores as another number;
* `Affinity.order_store` : a cell that is stored beside the same cell as an operand;
* `Condition.toSql_eq_null`, `Clause.ofCondition_eq_compare_null` : comparisons with `NULL`;
* `ConditionSet.equality_of_stored` : equalities of what is stored, and those that a text says.
-/
import SqlStore.Proofs.Condition.Precedence
import SqlStore.Proofs.Store.Users

namespace SqlStore

/-! ## Numbers -/

namespace Double

/-- A double that is an integer has the size of the integer. -/
theorem units_of_toInt? {x : Double} {n : Int} (h : x.toInt? = some n) :
    x.units = n * unitsPerOne := by
  unfold toInt? at h
  split at h
  · rename_i hwhole
    cases h
    simp only [Bool.and_eq_true, beq_iff_eq] at hwhole
    have hdvd : (unitsPerOne : Int) ∣ x.unitMagnitude :=
      Int.natCast_dvd_natCast.mpr (Nat.dvd_of_mod_eq_zero hwhole.2)
    have hunits : (unitsPerOne : Int) ∣ x.units := by
      unfold units
      split
      · exact Int.dvd_neg.mpr hdvd
      · exact hdvd
    exact (Int.ediv_mul_cancel hunits).symm
  · cases h

/-- A zero has the same size without its sign. -/
theorem units_withoutNegativeZero (x : Double) : x.withoutNegativeZero.units = x.units := by
  unfold withoutNegativeZero
  split
  · rename_i hzero
    have hmagnitude : x.unitMagnitude = 0 := by
      simp [unitMagnitude, significand, hzero]
    have hx : x.units = 0 := by simp [units, hmagnitude]
    rw [hx]
    decide +kernel
  · rfl

end Double

namespace Cell

/-- Numbers are compared by size. -/
theorem order_of_units {a b : Cell} {m n : Int} (ha : a.units? = some m) (hb : b.units? = some n) :
    a.order b = some (compare m n) := by
  cases a with
  | null | text _ => cases ha
  | integer _ | real _ =>
      cases b with
      | null | text _ => cases hb
      | integer _ | real _ =>
          cases ha
          cases hb
          rfl

/-- Numbers of one size are equal. -/
theorem order_of_units_eq {a b : Cell} {n : Int} (ha : a.units? = some n) (hb : b.units? = some n) :
    a.order b = some .eq := by
  rw [order_of_units ha hb, Int.compare_eq_eq.mpr rfl]

/-- A text is equal to itself. -/
theorem order_text (s : String) : (text s).order (text s) = some .eq :=
  congrArg some Std.ReflCmp.compare_self

/-- A text is read as a number or stays a text. -/
theorem numeric_ne_null {x : Cell} (h : x ≠ null) : x.numeric ≠ null := by
  cases x with
  | null => exact absurd rfl h
  | integer _ | real _ => exact h
  | text s => grind [numeric, numberOfText?]

/-- The integer that an integral real becomes has its size. -/
theorem units_integral (x : Double) : (real x).integral.units? = some x.units := by
  cases hx : x.toInt? with
  | none =>
      simp only [integral, hx]
      rfl
  | some n =>
      simp only [integral, hx]
      split
      · rename_i hrange
        simp only [Bool.and_eq_true, decide_eq_true_eq, Int64.toInt_minValue,
          Int64.toInt_maxValue] at hrange
        have hn : (Int64.ofInt n).toInt = n :=
          Int64.toInt_ofInt_of_le (by omega) (by omega)
        rw [units?, hn, Double.units_of_toInt? hx]
      · rfl

end Cell

/-! ## Cells beside what is stored of them -/

namespace Affinity

/-- The column stores the cell as another number: a real column does so to the integers that no real
is equal to. -/
def Rounds (a : Affinity) (x : Cell) : Prop :=
  a = real ∧ ∃ n, x.numeric = .integer n ∧
    (Double.ofInt n.toInt).units ≠ n.toInt * Double.unitsPerOne

/-- A cell that is stored as itself is not rounded. -/
theorem not_rounds_of_store_eq {a : Affinity} {x : Cell} (h : a.store x = x) : ¬ a.Rounds x := by
  rintro ⟨rfl, n, hn, -⟩
  have hx : x = .real (.ofInt n.toInt) := by
    rw [← h]
    show x.numeric.fractional = _
    rw [hn]
    rfl
  rw [hx] at hn
  cases hn

/-- What is stored of a cell is equal to it, unless the column rounds it. -/
theorem order_store (a : Affinity) {x : Cell} (hx : x ≠ .null) :
    ∃ o, (a.store x).order (a.operand x) = some o ∧ (o = .eq ↔ ¬ a.Rounds x) := by
  have hnumeric := Cell.numeric_ne_null hx
  unfold Rounds
  -- Both sides come from one text or one number; only a real column changes its size.
  cases a with
  | text =>
      obtain ⟨s, hs⟩ : ∃ s, x.textual = .text s := by
        cases x with
        | null => exact absurd rfl hx
        | integer _ | real _ | text _ => exact ⟨_, rfl⟩
      refine ⟨.eq, ?_, by simp⟩
      show x.textual.order x.textual = _
      rw [hs, Cell.order_text]
  | integer =>
      refine ⟨.eq, ?_, by simp⟩
      show x.numeric.integral.order x.numeric = _
      cases hy : x.numeric with
      | null => exact absurd hy hnumeric
      | integer n => exact Cell.order_of_units_eq rfl rfl
      | real y => exact Cell.order_of_units_eq (Cell.units_integral y) rfl
      | text s => exact Cell.order_text s
  | real =>
      show ∃ o, x.numeric.fractional.order x.numeric = some o ∧ _
      cases hy : x.numeric with
      | null => exact absurd hy hnumeric
      | integer n => exact ⟨_, Cell.order_of_units rfl rfl, by simp⟩
      | real y =>
          have hunits := congrArg some y.units_withoutNegativeZero
          exact ⟨.eq, Cell.order_of_units_eq hunits rfl, by simp⟩
      | text s => exact ⟨.eq, Cell.order_text s, by simp⟩

end Affinity

/-! ## Operands without a literal -/

/-- A real that is not finite, for which there is no literal but `NULL`. -/
def Value.isNonFinite : Value → Bool
  | real x => !x.isFinite
  | _ => false

/-- Of the scalars only those denote `NULL`. -/
theorem Cell.ofLiteral?_eq_null {v : Value} {x : Cell} (hscalar : ∀ items, v ≠ .list items)
    (hx : ofLiteral? v = some x) : x = null ↔ v.isNonFinite = true := by
  cases v with
  | integer n => cases hx; exact iff_of_false nofun nofun
  | real r =>
      cases hx
      show (if r.isFinite then real r else null) = null ↔ (!r.isFinite) = true
      cases r.isFinite <;> simp
  | text s =>
      rw [ofLiteral?] at hx
      split at hx
      · cases hx
      · cases hx
        exact iff_of_false nofun nofun
  | boolean b => cases hx; exact iff_of_false nofun nofun
  | list items => exact absurd rfl (hscalar items)

/-- A condition that compares with an operand. -/
theorem Condition.resolve_compare {scope : Scope} {table : Option String} {key : String} {i : Nat}
    (hposition : scope.position table key = .ok i) {v : Value} {x : Cell}
    (hx : Cell.ofLiteral? v = some x) :
    (Condition.mk table key .equal (some v)).resolve scope
        = .ok (.compare .equal i ((scope.affinity i).operand x)) ∧
      (Condition.mk table key .notEqual (some v)).resolve scope
        = .ok (.compare .notEqual i ((scope.affinity i).operand x)) := by
  unfold Condition.resolve Cell.ofOperand?
  simp only [hposition, Option.elim_some, hx]
  exact ⟨rfl, rfl⟩

/-- An equality with what is stored holds, and its negation does not, unless the column rounds the
operand; nothing is known of a real that is not finite. -/
theorem Condition.resolve_equality {scope : Scope} {table : Option String} {key : String} {i : Nat}
    (hposition : scope.position table key = .ok i) {v : Option Value} {x : Cell}
    (hscalar : ∀ items, v ≠ some (.list items)) (hx : Cell.ofOperand? v = some x) {row : List Cell}
    (hrow : cellAt row i = (scope.affinity i).store x) :
    ∃ equal notEqual, (Condition.mk table key .equal v).resolve scope = .ok equal ∧
      (Condition.mk table key .notEqual v).resolve scope = .ok notEqual ∧
      (equal.eval row = some true ↔
        v.any Value.isNonFinite = false ∧ ¬ (scope.affinity i).Rounds x) ∧
      (notEqual.eval row = some true ↔ (scope.affinity i).Rounds x) := by
  have hnull : ¬ (scope.affinity i).Rounds .null := by
    rintro ⟨-, n, hn, -⟩
    cases hn
  have hstore : (scope.affinity i).store .null = .null := by
    cases scope.affinity i <;> rfl
  cases v with
  | none =>
      -- Without an operand the tests ask for `NULL`, which is what the row holds.
      cases hx
      have hisNull (negated : Bool) : (Test.isNull i negated).eval row = some !negated := by
        unfold Test.eval
        rw [hrow, hstore]
        cases negated <;> rfl
      refine ⟨.isNull i false, .isNull i true, ?_, ?_, ?_, ?_⟩
      · simp only [resolve, hposition]
        rfl
      · simp only [resolve, hposition]
        rfl
      · simp [hisNull, hnull]
      · simp [hisNull, hnull]
  | some v =>
      obtain ⟨hequal, hnotEqual⟩ := resolve_compare hposition hx
      refine ⟨_, _, hequal, hnotEqual, ?_⟩
      have hnonFinite : x = .null ↔ v.isNonFinite = true :=
        Cell.ofLiteral?_eq_null (fun items h => hscalar items (congrArg some h)) hx
      unfold Test.eval
      rw [hrow, Option.any_some]
      by_cases hxnull : x = .null
      · -- The operand is compared all the same, and next to `NULL` that is unknown.
        subst hxnull
        have hunknown : ((scope.affinity i).store .null).order ((scope.affinity i).operand .null)
            = none := by
          rw [hstore]
          rfl
        simp [hunknown, hnonFinite.mp rfl, hnull]
      · obtain ⟨o, horder, ho⟩ := (scope.affinity i).order_store hxnull
        have hfinite : v.isNonFinite = false := by
          rw [← Bool.not_eq_true, ← hnonFinite]
          exact hxnull
        simp [horder, hfinite, Operator.accepts, ho]

/-! ## Comparisons with `NULL` -/

/-- The only literal of those reals is `NULL`, and no other scalar has it. -/
theorem Literal.ofValue_eq_null {v : Value} :
    Literal.ofValue v = .null ↔ v.isNonFinite = true := by
  cases v with
  | real x =>
      rw [ofValue, Value.isNonFinite]
      cases x.isFinite <;> simp
  | integer _ | text _ | boolean _ | list _ => simp [ofValue, Value.isNonFinite]

/-- A text says one literal. -/
theorem SpellsLiteral.unique {s : List Char} {v w : Literal} (hv : SpellsLiteral s v)
    (hw : SpellsLiteral s w) : v = w := by
  obtain ⟨ts, hlex, hread⟩ := hv
  obtain ⟨us, hlex', hread'⟩ := hw
  have htokens : ts = us := Option.some.inj (hlex.eq_some.symm.trans hlex'.eq_some)
  subst htokens
  have hsame := (literal?_append hread []).symm.trans (literal?_append hread' [])
  exact congrArg Prod.fst (Option.some.inj hsame)

/-- So the literals of other values are not `NULL`. -/
theorem Value.toSql_eq_null {v : Value} : v.toSql = "NULL" ↔ v.isNonFinite = true := by
  rw [← Literal.ofValue_eq_null]
  constructor
  · intro h
    have hspells := v.spells_toSql
    rw [h] at hspells
    exact hspells.unique spellsLiteral_null
  · intro h
    rw [Literal.ofValue_eq_null] at h
    cases v with
    | real x =>
        rw [toSql, Double.literal]
        simp_all [isNonFinite]
    | integer _ | text _ | boolean _ | list _ => cases h

/-- The text of an equality compares with `NULL` just if its operand is such a real, whatever the
column is. -/
theorem Condition.toSql_eq_null (table : Option String) (key : String) (v : Option Value) :
    let equal : Condition := ⟨table, key, .equal, v⟩
    let notEqual : Condition := ⟨table, key, .notEqual, v⟩
    (equal.toSql = .ok (equal.column ++ " = NULL") ↔ v.any Value.isNonFinite = true) ∧
      (notEqual.toSql = .ok (notEqual.column ++ " != NULL") ↔ v.any Value.isNonFinite = true) := by
  intro equal notEqual
  cases v with
  | none => simp [equal, notEqual, toSql]
  | some v =>
      rw [Option.any_some, ← Value.toSql_eq_null]
      constructor
      · show Except.ok (equal.column ++ " " ++ "=" ++ " " ++ v.toSql) = Except.ok _ ↔ _
        rw [Except.ok.injEq, ← String.toList_inj, ← String.toList_inj]
        simp
      · show Except.ok (notEqual.column ++ " " ++ "!=" ++ " " ++ v.toSql) = Except.ok _ ↔ _
        rw [Except.ok.injEq, ← String.toList_inj, ← String.toList_inj]
        simp

/-- A membership test compares with nothing. -/
theorem Clause.ofMembership_ne_compare (column : ColumnName) (negated : Bool) (items : List Value)
    (op : Operator) (other : ColumnName) (operand : Literal) :
    ofMembership column negated items ≠ compare op other operand := by
  cases items <;> exact nofun

/-- An equality says that a column is equal to `NULL` just if its operand is such a real. -/
theorem Clause.ofCondition_eq_compare_null {c : Condition} {op : Operator} {column : ColumnName}
    (hop : op = .equal ∨ op = .notEqual) :
    ofCondition c = .compare op column .null ↔
      c.operation = op ∧ ⟨c.table, c.key⟩ = column ∧ c.value.any Value.isNonFinite = true := by
  unfold ofCondition
  split
  · rename_i hvalue
    simp [hvalue]
  · rename_i hvalue
    simp [hvalue]
  · rename_i hoperation
    rcases hop with rfl | rfl <;> simp [hoperation]
  · rename_i hoperation _
    rcases hop with rfl | rfl <;> simp [hoperation, ofMembership_ne_compare]
  · rename_i hoperation _
    rcases hop with rfl | rfl <;> simp [hoperation, ofMembership_ne_compare]
  · rename_i hequal hnotEqual _ _
    cases hvalue : c.value with
    | none =>
        have hoperation : c.operation ≠ op := by
          rintro rfl
          rcases hop with h | h
          · exact hequal h hvalue
          · exact hnotEqual h hvalue
        simp [hoperation]
    | some v => simp [Literal.ofOption, Literal.ofValue_eq_null]

/-- The leaves among the items of a set are its conditions. -/
theorem ConditionSet.leaf_mem_lexemes {set : ConditionSet} {c : Condition} :
    .leaf c ∈ set.lexemes ↔ c ∈ set.leaves := by
  induction set with
  | empty => simp [lexemes, leaves]
  | single d => simp [lexemes, leaves]
  | compound op left right capsuled ihl ihr =>
      cases capsuled <;> simp [lexemes, leaves, ihl, ihr]

/-- A leaf of other leaves is what becomes of one of them. -/
theorem Lexeme.leaf_mem_map {α β : Type} {f : α → β} {items : List (Lexeme α)} {b : β} :
    .leaf b ∈ items.map (Lexeme.map f) ↔ ∃ a, .leaf a ∈ items ∧ f a = b := by
  rw [List.mem_map]
  constructor
  · rintro ⟨item, hitem, h⟩
    cases item with
    | leaf a =>
        cases h
        exact ⟨a, hitem, rfl⟩
    | connective op | opening | closing => cases h
  · rintro ⟨a, ha, rfl⟩
    exact ⟨.leaf a, ha, rfl⟩

/-- A text that is a sequence of items is read as that. -/
theorem SpellsLexemes.eq_some {s : List Char} {items : List (Lexeme Clause)}
    (h : SpellsLexemes s items) : (tokens? s).bind lexemes? = some items := by
  obtain ⟨ts, hlex, hread⟩ := h
  rw [hlex.eq_some, Option.bind_some]
  simpa [lexemes?] using hread []

/-! ## Equalities -/

/-- In a row that holds what a column stores of the cell of an operand, the equality with the
operand is true and the inequality is not; but a real column may round an integer, and with a real
that is not finite the equality is not true.  The texts of the two compare with `NULL` if the
operand is such a real, and for no other; so does the text of any set on named columns just for
these of its conditions. -/
theorem ConditionSet.equality_of_stored (table : Option String) (key : String) (v : Option Value)
    (set : ConditionSet) :
    let equal : Condition := ⟨table, key, .equal, v⟩
    let notEqual : Condition := ⟨table, key, .notEqual, v⟩
    (∀ (scope : Scope) (i : Nat) (x : Cell) (row : List Cell), scope.position table key = .ok i →
      (∀ items, v ≠ some (.list items)) → Cell.ofOperand? v = some x →
      cellAt row i = (scope.affinity i).store x →
      ∃ equalTest notEqualTest, (single equal).test scope = .ok equalTest ∧
        (single notEqual).test scope = .ok notEqualTest ∧
        (equalTest.eval row = some true ↔
          v.any Value.isNonFinite = false ∧ ¬ (scope.affinity i).Rounds x) ∧
        (notEqualTest.eval row = some true ↔ (scope.affinity i).Rounds x) ∧
        ((scope.affinity i).store x = x → ¬ (scope.affinity i).Rounds x)) ∧
    ((equal.toSql = .ok (equal.column ++ " = NULL") ↔ v.any Value.isNonFinite = true) ∧
      (notEqual.toSql = .ok (notEqual.column ++ " != NULL") ↔
        v.any Value.isNonFinite = true)) ∧
    ∀ text, (∀ c ∈ set.leaves, c.IsNamed) → set.toSql = .ok text →
      ∃ items, (tokens? text.toList).bind lexemes? = some items ∧
        ∀ op column, op = .equal ∨ op = .notEqual →
          (.leaf (.compare op column .null) ∈ items ↔
            ∃ c ∈ set.leaves, c.operation = op ∧ ⟨c.table, c.key⟩ = column ∧
              c.value.any Value.isNonFinite = true) := by
  intro equal notEqual
  refine ⟨?_, Condition.toSql_eq_null table key v, ?_⟩
  · intro scope i x row hposition hscalar hx hrow
    obtain ⟨equalTest, notEqualTest, hequal, hnotEqual, htrue, hfalse⟩ :=
      Condition.resolve_equality hposition hscalar hx hrow
    exact ⟨equalTest, notEqualTest, hequal, hnotEqual, htrue, hfalse,
      Affinity.not_rounds_of_store_eq⟩
  · intro text hnamed htext
    refine ⟨_, (spells_toSql hnamed htext).eq_some, fun op column hop => ?_⟩
    simp only [Lexeme.leaf_mem_map, leaf_mem_lexemes, Clause.ofCondition_eq_compare_null hop]

/-- A table with prices. -/
def priceScope : Scope := [⟨"items", "price", .real⟩]

theorem position_priceScope : priceScope.position none "price" = .ok 0 := by
  apply eq_ok_of_toOption
  decide +kernel

/-- A real that is not a number. -/
def Double.notANumber : Double := ⟨0x7FF8000000000000⟩

/-- A price of one and a half is found where it is stored, and of two conditions the one with a real
that is not a number compares with `NULL`. -/
theorem ConditionSet.equality_of_stored_price :
    let price : Value := .real ⟨0x3FF8000000000000⟩
    (∃ equal notEqual,
      (single ⟨none, "price", .equal, some price⟩).test priceScope = .ok equal ∧
      (single ⟨none, "price", .notEqual, some price⟩).test priceScope = .ok notEqual ∧
      equal.eval [.real ⟨0x3FF8000000000000⟩] = some true ∧
      notEqual.eval [.real ⟨0x3FF8000000000000⟩] ≠ some true) ∧
    ∃ items, (tokens? "price = 3 AND price != NULL".toList).bind lexemes? = some items ∧
      .leaf (.compare .notEqual ⟨none, "price"⟩ .null) ∈ items ∧
      .leaf (.compare .equal ⟨none, "price"⟩ .null) ∉ items := by
  intro price
  obtain ⟨hrows, -, htexts⟩ := equality_of_stored none "price" (some price)
    ((single ⟨none, "price", .equal, some (.integer 3)⟩).and
      (single ⟨none, "price", .notEqual, some (.real .notANumber)⟩))
  constructor
  · obtain ⟨equal, notEqual, hequal, hnotEqual, htrue, hfalse, hstored⟩ :=
      hrows priceScope 0 (.real ⟨0x3FF8000000000000⟩) [.real ⟨0x3FF8000000000000⟩]
        position_priceScope (by simp [price]) rfl (by decide +kernel)
    have hnot := hstored (by decide +kernel)
    exact ⟨equal, notEqual, hequal, hnotEqual, htrue.mpr ⟨by decide +kernel, hnot⟩,
      fun h => hnot (hfalse.mp h)⟩
  · obtain ⟨items, hitems, hcompare⟩ :=
      htexts "price = 3 AND price != NULL" (by decide +kernel) rfl
    refine ⟨items, hitems, (hcompare .notEqual _ (.inr rfl)).mpr ?_, fun h => ?_⟩
    · exact ⟨_, .tail _ (.head _), rfl, rfl, rfl⟩
    · obtain ⟨c, hc, hoperation, -, hnull⟩ := (hcompare .equal _ (.inl rfl)).mp h
      rcases List.mem_cons.mp hc with rfl | hc
      · cases hnull
      · cases List.mem_singleton.mp hc
        cases hoperation

/-- A real that is not a number is stored as nothing, but the equality with it compares with `NULL`,
and is not true of the row. -/
theorem ConditionSet.equality_of_notANumber :
    Cell.ofOperand? (some (.real .notANumber)) = some .null ∧
      (single ⟨none, "price", .equal, some (.real .notANumber)⟩).toSql = .ok "price = NULL" ∧
      ∃ equal, (single ⟨none, "price", .equal, some (.real .notANumber)⟩).test priceScope
        = .ok equal ∧ equal.eval [.null] = none := by
  obtain ⟨hequal, -⟩ :=
    Condition.resolve_compare position_priceScope (v := .real .notANumber) (x := .null) rfl
  exact ⟨rfl, rfl, _, hequal, rfl⟩

end SqlStore
