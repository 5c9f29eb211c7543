/-
# Naming the table of a condition set

A join names the table of every condition of a side before it combines the sides.  It might as well
combine them first: naming the table goes through `and`, `or` and the capsules, and changes nothing
of a set but the columns that its text shows.

* `ConditionSet.shape` : a set without its conditions;
* `Segment`, `ConditionSet.Template` : a text in which the columns of the conditions are left open;
* `ConditionSet.exists_template` : every set that compiles has such a text;
* `ConditionSet.qualified_hom` : what naming the table keeps, and what it changes.
-/
import SqlStore.Proofs.Query.Filter

namespace SqlStore

/-! ## Shapes -/

/-- A tree of connectives, with the mark of each compound. -/
inductive Shape
  | empty
  | single
  | compound (op : Connective) (left right : Shape) (capsuled : Bool)
deriving DecidableEq, Inhabited

namespace ConditionSet

/-- The set without its conditions. -/
def shape : ConditionSet → Shape
  | empty => .empty
  | single _ => .single
  | compound op left right capsuled => .compound op left.shape right.shape capsuled

/-! ## Combinators -/

section

variable (table : String) (left right set : ConditionSet)

/-- Naming the table changes no capsule. -/
theorem qualified_capsule : set.capsule.qualified table = (set.qualified table).capsule := by
  cases set with
  | empty => rfl
  | single c => rfl
  | compound op left right capsuled => rfl

/-- Only the empty set is empty on a table. -/
theorem qualified_eq_empty_iff : set.qualified table = empty ↔ set = empty := by
  cases set with
  | empty => exact iff_of_true rfl rfl
  | single c => exact iff_of_false nofun nofun
  | compound op left right capsuled => exact iff_of_false nofun nofun

/-- Two sets may be put on the table before they are combined. -/
theorem qualified_combine (op : Connective) :
    (combine op left right).qualified table
      = combine op (left.qualified table) (right.qualified table) := by
  cases left with
  | empty => rfl
  | single c => cases right <;> rfl
  | compound op' l r capsuled => cases right <;> rfl

/-- The last table that is named counts. -/
theorem qualified_qualified (first : String) :
    (set.qualified first).qualified table = set.qualified table := by
  induction set with
  | empty => rfl
  | single c => rfl
  | compound op left right capsuled ihl ihr => simp only [qualified, ihl, ihr]

/-- The tree stays as it is, with all its marks. -/
theorem shape_qualified : (set.qualified table).shape = set.shape := by
  induction set with
  | empty => rfl
  | single c => rfl
  | compound op left right capsuled ihl ihr => simp only [qualified, shape, ihl, ihr]

end

end ConditionSet

/-! ## Texts with their columns left open -/

/-- A part of a text: fixed, or the column of a condition. -/
inductive Segment
  | fixed (text : String)
  | column (c : Condition)
deriving Inhabited

namespace Segment

/-- The condition whose column stands here, if one does. -/
def condition? : Segment → Option Condition
  | fixed _ => none
  | column c => some c

/-- The text of the segment, for a way of writing columns. -/
def text (write : Condition → String) : Segment → String
  | fixed text => text
  | column c => write c

/-- The text of several segments. -/
def fill (write : Condition → String) (segments : List Segment) : String :=
  String.join (segments.map (text write))

/-- Two texts with a connective between them, in parentheses if they are capsuled. -/
def join (op : Connective) (xs ys : List Segment) (capsuled : Bool) : List Segment :=
  let body := xs ++ fixed (" " ++ op.keyword ++ " ") :: ys
  if capsuled then fixed "(" :: body ++ [fixed ")"] else body

theorem fill_join (write : Condition → String) (op : Connective) (xs ys : List Segment)
    (capsuled : Bool) :
    fill write (join op xs ys capsuled)
      = ConditionSet.wrap capsuled
        (fill write xs ++ " " ++ op.keyword ++ " " ++ fill write ys) := by
  cases capsuled <;> simp [join, fill, text, ConditionSet.wrap, String.append_assoc]

theorem filterMap_join (op : Connective) (xs ys : List Segment) (capsuled : Bool) :
    (join op xs ys capsuled).filterMap condition?
      = xs.filterMap condition? ++ ys.filterMap condition? := by
  cases capsuled <;> simp [join, condition?, List.filterMap_cons]

end Segment

/-- The condition asks for membership in a list without elements, so that its text is a constant. -/
def Condition.testsEmptyList (c : Condition) : Bool :=
  match c.operation, c.value with
  | .inList, some (.list []) | .notInList, some (.list []) => true
  | _, _ => false

/-- The segments are the text of the set and of the set on any table, but for the columns. -/
structure ConditionSet.Template (set : ConditionSet) (segments : List Segment) : Prop where
  /-- The column of every condition is left open, in order, unless the text is a constant. -/
  columns : segments.filterMap Segment.condition? = set.leaves.filter (!·.testsEmptyList)
  toSql : set.toSql = .ok (Segment.fill Condition.column segments)
  toSql_qualified : ∀ table, (set.qualified table).toSql
    = .ok (Segment.fill (fun c => table ++ "." ++ c.key) segments)

namespace Condition

variable {c : Condition}

/-- The text of a test for membership in an empty list does not depend on the table. -/
theorem toSql_of_testsEmptyList (h : c.testsEmptyList = true) :
    ∃ text, c.toSql = .ok text ∧ ∀ table, (c.qualified table).toSql = .ok text := by
  obtain ⟨table, key, operation, value⟩ := c
  unfold testsEmptyList at h
  split at h
  · rename_i hop hvalue
    cases hop
    cases hvalue
    exact ⟨"0 = 1", rfl, fun _ => rfl⟩
  · rename_i hop hvalue
    cases hop
    cases hvalue
    exact ⟨"1 = 1", rfl, fun _ => rfl⟩
  · cases h

/-- Any other text has the column in front, and the table has no part in what is said of it. -/
theorem toSql_of_not_testsEmptyList (h : c.testsEmptyList = false) {text : String}
    (htext : c.toSql = .ok text) :
    ∃ said : String, ∀ table : Option String,
      { c with table }.toSql = .ok ({ c with table }.column ++ said) := by
  obtain ⟨own, key, operation, value⟩ := c
  have hcompare (symbol : String) : ∃ said : String, ∀ column : String,
      column ++ " " ++ symbol ++ " " ++ Value.literal value = column ++ said :=
    ⟨" " ++ symbol ++ " " ++ Value.literal value, fun column => by simp [String.append_assoc]⟩
  have hmember (keyword constant : String) (hempty : value ≠ some (.list []))
      (hlist : (listOperand value).map (membership (column ⟨own, key, operation, value⟩) keyword
        constant) = .ok text) :
      ∃ said : String, ∀ column : String,
        (listOperand value).map (membership column keyword constant) = .ok (column ++ said) := by
    obtain ⟨items, hitems, -⟩ := map_eq_ok_iff.mp hlist
    rw [hitems]
    cases items with
    | nil => exact absurd (eq_list_of_listOperand hitems) hempty
    | cons v vs =>
        refine ⟨" " ++ keyword ++ " (" ++ Value.joinLiterals (v :: vs) ++ ")", fun column => ?_⟩
        simp [Except.map, membership, String.append_assoc]
  cases operation with
  | equal =>
      cases value with
      | none => exact ⟨" IS NULL", fun _ => rfl⟩
      | some v =>
          obtain ⟨said, hsaid⟩ := hcompare "="
          exact ⟨said, fun _ => congrArg Except.ok (hsaid _)⟩
  | notEqual =>
      cases value with
      | none => exact ⟨" IS NOT NULL", fun _ => rfl⟩
      | some v =>
          obtain ⟨said, hsaid⟩ := hcompare "!="
          exact ⟨said, fun _ => congrArg Except.ok (hsaid _)⟩
  | greaterThan orEqual =>
      obtain ⟨said, hsaid⟩ := hcompare (if orEqual then ">=" else ">")
      exact ⟨said, fun _ => congrArg Except.ok (hsaid _)⟩
  | lessThan orEqual =>
      obtain ⟨said, hsaid⟩ := hcompare (if orEqual then "<=" else "<")
      exact ⟨said, fun _ => congrArg Except.ok (hsaid _)⟩
  | like =>
      obtain ⟨said, hsaid⟩ := hcompare "LIKE"
      exact ⟨said, fun _ => congrArg Except.ok (hsaid _)⟩
  | isNull => exact ⟨" IS NULL", fun _ => rfl⟩
  | inList =>
      have hempty : value ≠ some (.list []) := by
        rintro rfl
        cases h
      obtain ⟨said, hsaid⟩ := hmember "IN" "0 = 1" hempty htext
      exact ⟨said, fun _ => hsaid _⟩
  | notInList =>
      have hempty : value ≠ some (.list []) := by
        rintro rfl
        cases h
      obtain ⟨said, hsaid⟩ := hmember "NOT IN" "1 = 1" hempty htext
      exact ⟨said, fun _ => hsaid _⟩

/-- Every condition that compiles is a template. -/
theorem exists_template {text : String} (htext : c.toSql = .ok text) :
    ∃ segments, (ConditionSet.single c).Template segments := by
  by_cases h : c.testsEmptyList = true
  · obtain ⟨constant, hown, hqualified⟩ := toSql_of_testsEmptyList h
    have hfill (write : Condition → String) : Segment.fill write [.fixed constant] = constant := by
      simp [Segment.fill, Segment.text]
    refine ⟨[.fixed constant], ?_, ?_, fun table => ?_⟩
    · simp [Segment.condition?, ConditionSet.leaves, h]
    · rw [hfill]
      exact hown
    · rw [hfill]
      exact hqualified table
  · have hopen : c.testsEmptyList = false := by simpa using h
    obtain ⟨said, hsaid⟩ := toSql_of_not_testsEmptyList hopen htext
    have hfill (write : Condition → String) :
        Segment.fill write [.column c, .fixed said] = write c ++ said := by
      simp [Segment.fill, Segment.text]
    refine ⟨[.column c, .fixed said], ?_, ?_, fun table => ?_⟩
    · simp [Segment.condition?, ConditionSet.leaves, hopen]
    · rw [hfill]
      exact hsaid c.table
    · rw [hfill]
      exact hsaid (some table)

end Condition

namespace ConditionSet

/-- The text of a compound, of the texts of its sides. -/
theorem toSql_compound_of_ok {left right : ConditionSet} {l r : String} (op : Connective)
    (capsuled : Bool) (hl : left.toSql = .ok l) (hr : right.toSql = .ok r) :
    (compound op left right capsuled).toSql
      = .ok (wrap capsuled (l ++ " " ++ op.keyword ++ " " ++ r)) := by
  rw [toSql, hl, hr]
  rfl

/-- Two templates with a connective between them. -/
theorem Template.compound {left right : ConditionSet} {xs ys : List Segment}
    (hl : left.Template xs) (hr : right.Template ys) (op : Connective) (capsuled : Bool) :
    (ConditionSet.compound op left right capsuled).Template (Segment.join op xs ys capsuled) := by
  refine ⟨?_, ?_, fun table => ?_⟩
  · rw [Segment.filterMap_join, hl.columns, hr.columns, leaves, List.filter_append]
  · rw [toSql_compound_of_ok op capsuled hl.toSql hr.toSql, Segment.fill_join]
  · rw [qualified, Segment.fill_join]
    exact toSql_compound_of_ok op capsuled (hl.toSql_qualified table) (hr.toSql_qualified table)

/-- Every set that compiles has a template. -/
theorem exists_template {set : ConditionSet} {text : String} (htext : set.toSql = .ok text) :
    ∃ segments, set.Template segments := by
  induction set generalizing text with
  | empty => exact ⟨[], rfl, rfl, fun _ => rfl⟩
  | single c => exact Condition.exists_template htext
  | compound op left right capsuled ihl ihr =>
      obtain ⟨l, r, hl, hr, -⟩ := toSql_compound htext
      obtain ⟨xs, hxs⟩ := ihl hl
      obtain ⟨ys, hys⟩ := ihr hr
      exact ⟨_, hxs.compound hys op capsuled⟩

/-- Naming the table of a set is a homomorphism.  It goes through the connectives and the capsules,
the last table that is named counts, and the tree stays as it is, the empty set alone being empty.
The text of a set and its text on any table are the same but for the columns of its conditions, each
of which is written after the table instead; a test for membership in an empty list shows none. -/
theorem qualified_hom (a b : ConditionSet) (t u : String) :
    (a.and b).qualified t = (a.qualified t).and (b.qualified t) ∧
      (a.or b).qualified t = (a.qualified t).or (b.qualified t) ∧
      a.capsule.qualified t = (a.qualified t).capsule ∧
      (a.qualified u).qualified t = a.qualified t ∧
      (a.qualified t = empty ↔ a = empty) ∧
      (a.qualified t).shape = a.shape ∧
      ∀ text, a.toSql = .ok text → ∃ segments,
        segments.filterMap Segment.condition? = a.leaves.filter (!·.testsEmptyList) ∧
        text = Segment.fill Condition.column segments ∧
        ∀ table, (a.qualified table).toSql
          = .ok (Segment.fill (fun c => table ++ "." ++ c.key) segments) := by
  refine ⟨qualified_combine t a b .and, qualified_combine t a b .or, qualified_capsule t a,
    qualified_qualified t a u, qualified_eq_empty_iff t a, shape_qualified t a, ?_⟩
  intro text htext
  obtain ⟨segments, h⟩ := exists_template htext
  have hfill := htext.symm.trans h.toSql
  exact ⟨segments, h.columns, Except.ok.inj hfill, h.toSql_qualified⟩

/-- A set with a capsule, a table of its own and a test in an empty list, on another table. -/
theorem qualified_hom_users :
    let name : Condition := ⟨some "old", "name", .like, some (.text "old.%")⟩
    let age : Condition := ⟨none, "age", .isNull, none⟩
    let never : Condition := ⟨none, "id", .inList, some (.list [])⟩
    let set := ((single name).or (single age)).and (single never)
    set.toSql = .ok "(old.name LIKE 'old.%' OR age IS NULL) AND 0 = 1" ∧
      ∃ segments, segments.filterMap Segment.condition? = [name, age] ∧
        (set.qualified "users").toSql
          = .ok (Segment.fill (fun c => "users" ++ "." ++ c.key) segments) ∧
        (set.qualified "users").toSql
          = .ok "(users.name LIKE 'old.%' OR users.age IS NULL) AND 0 = 1" := by
  intro name age never set
  have htext : set.toSql = .ok "(old.name LIKE 'old.%' OR age IS NULL) AND 0 = 1" := by
    decide +kernel
  obtain ⟨-, -, -, -, -, -, hopen⟩ := qualified_hom set empty "users" "old"
  obtain ⟨segments, hcolumns, -, hqualified⟩ := hopen _ htext
  exact ⟨htext, segments, hcolumns, hqualified "users", by decide +kernel⟩

end ConditionSet

end SqlStore
