/-
# What joining builds

A join starts from the select of its base table and takes in further selects from left to right.  It
gathers the columns, the conditions, the orderings and the limits of its sides, each on the table of
the side that it comes from.

* `Join.build` : the join of a base and a list of further selects;
* `Join.Gathers`, `Join.build_gathers` : what it holds of its sides;
* `Join.merged?`, `Join.tree?_build` : its conditions group to the left, as the joins follow;
* `Join.build_spec` : the parts of its text, whose conditions read back as that grouping.
-/
import SqlStore.Query.Join
import SqlStore.Proofs.Condition.Precedence
import SqlStore.Proofs.Database.Refusal
import Mathlib.Data.List.Induction

namespace SqlStore

/-! ## Sides -/

/-- A select that is joined to what has been built so far. -/
structure JoinStep where
  kind : JoinKind
  other : Select
  /-- The column of the base table. -/
  left : String
  /-- The column of the joined table. -/
  right : String
  /-- Whether rows have to meet the conditions of both sides, or of one of them. -/
  intersect : Bool
deriving Inhabited

/-- What the conditions before the join and those of the joined select are combined under. -/
def JoinStep.connective (s : JoinStep) : Connective := if s.intersect then .and else .or

/-- The clause that joins the table. -/
def JoinStep.on (s : JoinStep) : JoinOn := ⟨s.kind, s.other.table, s.left, s.right⟩

/-- The conditions of a select as a predicate on the columns of its table. -/
def Select.predicate? (s : Select) : Option (Predicate Condition) :=
  s.filter.conditions.tree?.map (Predicate.map (Condition.qualified s.table))

/-- The table and the columns under the conditions are named by identifiers. -/
def Select.IsNamed (s : Select) : Prop :=
  isIdentifier s.table = true ∧ ∀ c ∈ s.filter.conditions.leaves, isIdentifier c.key = true

instance (s : Select) : Decidable s.IsNamed := inferInstanceAs (Decidable (_ ∧ _))

namespace Join

/-- The join of a base with further selects, from left to right. -/
def build (base : Select) (steps : List JoinStep) : Join :=
  steps.foldl (fun j s => j.join s.kind s.other s.left s.right s.intersect) (.ofSelect base)

/-- The selects that a join is made of. -/
def sides (base : Select) (steps : List JoinStep) : List Select :=
  base :: steps.map JoinStep.other

/-- The predicates of the sides under the connectives of the joins, grouped to the left.  A side
without conditions is skipped, and its connective with it. -/
def merged? (base : Select) (steps : List JoinStep) : Option (Predicate Condition) :=
  steps.foldl (fun p s => p.merge (.compound s.connective) s.other.predicate?) base.predicate?

section

variable {base : Select} {steps : List JoinStep} {s : JoinStep}

/-- The last join is made onto the others. -/
theorem build_concat : build base (steps ++ [s])
    = (build base steps).join s.kind s.other s.left s.right s.intersect := by
  rw [build, List.foldl_append]
  rfl

theorem sides_concat : sides base (steps ++ [s]) = sides base steps ++ [s.other] := by
  simp [sides]

theorem merged?_concat : merged? base (steps ++ [s])
    = (merged? base steps).merge (.compound s.connective) s.other.predicate? := by
  rw [merged?, List.foldl_append]
  rfl

end

/-! ## What is gathered -/

/-- What a join holds of the base and of the selects joined to it, in their order. -/
structure Gathers (j : Join) (base : Select) (steps : List JoinStep) : Prop where
  table : j.base = base.table
  /-- The columns of every side are selected from its own table. -/
  selections : j.selections = (sides base steps).map fun s => ⟨s.table, s.selection⟩
  /-- There is one `ON` clause for every join. -/
  joins : j.joins = steps.map JoinStep.on
  /-- Every condition is kept once, on the table of its side. -/
  leaves : j.conditions.leaves = (sides base steps).flatMap fun s =>
    s.filter.conditions.leaves.map (Condition.qualified s.table)
  ascending : j.ascending = (sides base steps).flatMap fun s =>
    s.filter.ascending.map (⟨s.table, ·⟩)
  descending : j.descending = (sides base steps).flatMap fun s =>
    s.filter.descending.map (⟨s.table, ·⟩)
  /-- The smallest of the limits is kept, if there are any. -/
  limit : j.limit = ((sides base steps).filterMap (·.filter.limit)).min?

end Join

namespace ConditionSet

/-- Capsuling a set keeps its conditions. -/
theorem leaves_capsule (set : ConditionSet) : set.capsule.leaves = set.leaves := by
  cases set <;> rfl

/-- Combining two sets keeps the conditions of both. -/
theorem leaves_combine (op : Connective) (left right : ConditionSet) :
    (combine op left right).leaves = left.leaves ++ right.leaves := by
  rw [combine.eq_def]
  split
  · rfl
  · simp [leaves]
  · simp only [leaves, leaves_capsule]

/-- Naming the table changes every condition in its place. -/
theorem leaves_qualified (table : String) (set : ConditionSet) :
    (set.qualified table).leaves = set.leaves.map (Condition.qualified table) := by
  induction set with
  | empty => rfl
  | single c => rfl
  | compound op left right capsuled ihl ihr =>
      simp only [qualified, leaves, ihl, ihr, List.map_append]

end ConditionSet

/-- One more limit. -/
theorem minLimit_min? (limits : List UInt64) (limit : Option UInt64) :
    minLimit limits.min? limit = (limits ++ limit.toList).min? := by
  cases limit with
  | none => cases h : limits.min? <;> simp [minLimit, h]
  | some b =>
      cases limits with
      | nil => rfl
      | cons a rest =>
          rw [List.min?_cons', Option.toList_some, List.cons_append, List.min?_cons',
            List.foldl_append]
          rfl

/-- The order of the limits does not matter. -/
theorem min?_eq_of_perm {limits limits' : List UInt64} (h : limits.Perm limits') :
    limits.min? = limits'.min? := by
  refine Option.ext fun a => ?_
  simp only [List.min?_eq_some_iff, h.mem_iff]

namespace Join

/-- The join of one table gathers that select. -/
theorem gathers_ofSelect (base : Select) : (ofSelect base).Gathers base [] := by
  constructor
  case limit => cases h : base.filter.limit <;> simp [ofSelect, sides, h]
  all_goals simp [ofSelect, sides, ConditionSet.leaves_qualified]

/-- Joining one more select gathers it as well. -/
theorem Gathers.join {j : Join} {base : Select} {steps : List JoinStep} (h : j.Gathers base steps)
    (s : JoinStep) :
    (j.join s.kind s.other s.left s.right s.intersect).Gathers base (steps ++ [s]) := by
  constructor
  case table => exact h.table
  case limit =>
    rw [sides_concat, List.filterMap_append, Join.join, h.limit, minLimit_min?]
    cases hlimit : s.other.filter.limit <;> simp [hlimit]
  all_goals
    simp [Join.join, sides_concat, JoinStep.on, ConditionSet.leaves_combine,
      ConditionSet.leaves_qualified, h.selections, h.joins, h.leaves, h.ascending, h.descending]

/-- A join gathers its sides. -/
theorem build_gathers (base : Select) (steps : List JoinStep) :
    (build base steps).Gathers base steps := by
  induction steps using List.reverseRecOn with
  | nil => exact gathers_ofSelect base
  | append_singleton steps s ih => exact build_concat ▸ ih.join s

end Join

/-! ## How the conditions group -/

namespace ConditionSet

/-- Capsuling a set keeps its tree. -/
theorem tree?_capsule (set : ConditionSet) : set.capsule.tree? = set.tree? := by
  cases set <;> rfl

/-- An enclosed set has a tree. -/
theorem Nested.tree?_eq_none_iff {set : ConditionSet} (h : set.Nested) :
    set.tree? = none ↔ set = empty := by
  constructor
  · intro hnone
    by_contra hne
    obtain ⟨tree, htree, -⟩ := h.ofLexemes? id hne
    exact Option.some_ne_none tree (htree.symm.trans hnone)
  · intro hempty
    rw [hempty, tree?]

/-- Combining two sets puts their trees under the connective. -/
theorem Nested.tree?_combine {left right : ConditionSet} (op : Connective) (hl : left.Nested)
    (hr : right.Nested) :
    (ConditionSet.combine op left right).tree?
      = left.tree?.merge (.compound op) right.tree? := by
  rw [ConditionSet.combine.eq_def]
  split
  · cases right.tree? <;> rfl
  · cases left.tree? <;> rfl
  · rename_i hnel hner
    obtain ⟨l, hl⟩ := Option.ne_none_iff_exists'.mp (mt hl.tree?_eq_none_iff.mp hnel)
    obtain ⟨r, hr⟩ := Option.ne_none_iff_exists'.mp (mt hr.tree?_eq_none_iff.mp hner)
    rw [tree?, tree?_capsule, tree?_capsule, hl, hr]
    rfl

/-- Naming the table changes the leaves of the tree. -/
theorem tree?_qualified (table : String) (set : ConditionSet) :
    (set.qualified table).tree? = set.tree?.map (Predicate.map (Condition.qualified table)) := by
  induction set with
  | empty => rfl
  | single c => rfl
  | compound op left right capsuled ihl ihr =>
      rw [qualified, tree?, ihl, ihr, tree?]
      cases left.tree? <;> cases right.tree? <;> rfl

end ConditionSet

namespace Join

/-- The conditions of a join of sets that are built group to the left. -/
theorem tree?_build {base : Select} {steps : List JoinStep}
    (h : ∀ s ∈ sides base steps, s.filter.conditions.Built) :
    (build base steps).conditions.Nested ∧
      (build base steps).conditions.tree? = merged? base steps := by
  induction steps using List.reverseRecOn with
  | nil =>
      have hbase := (h base List.mem_cons_self).nested
      exact ⟨hbase.qualified base.table, ConditionSet.tree?_qualified base.table _⟩
  | append_singleton steps s ih =>
      rw [sides_concat] at h
      obtain ⟨hnested, htree⟩ := ih fun t ht => h t (List.mem_append_left _ ht)
      have hother := ((h s.other (by simp)).nested).qualified s.other.table
      rw [build_concat]
      refine ⟨hnested.combine s.connective hother, ?_⟩
      rw [merged?_concat, ← htree, Select.predicate?, ← ConditionSet.tree?_qualified]
      exact hnested.tree?_combine s.connective hother

end Join

/-! ## The text -/

/-- What a `WHERE` clause says; a clause that is absent says nothing. -/
def SaysWhere (clause : String) : Option (Predicate Clause) → Prop
  | none => clause = ""
  | some p => ∃ text, clause = " WHERE " ++ text ∧ Predicate.ofText? text = some p

/-- The empty text says nothing. -/
theorem Predicate.ofText?_empty : Predicate.ofText? "" = none := by
  simp [ofText?, tokens?, tokensFrom, runToken, lexemes?, ofLexemes?, Reading.start,
    Reading.finish?]

namespace ConditionSet

/-- The text of a nested set says its tree. -/
theorem Nested.says_whereClause {set : ConditionSet} (hn : set.Nested)
    (hnamed : ∀ c ∈ set.leaves, c.IsNamed) {clause : String} (h : whereClause set = .ok clause) :
    SaysWhere clause (set.tree?.map (Predicate.map Clause.ofCondition)) := by
  by_cases hempty : set = empty
  · subst hempty
    cases h
    rfl
  · obtain ⟨tree, htree, hgroup⟩ := hn.ofLexemes? Clause.ofCondition hempty
    cases htext : set.toSql with
    | error e =>
        rw [whereClause, htext] at h
        cases h
    | ok text =>
        obtain ⟨ts, hlex, hread⟩ := spells_toSql hnamed htext
        have hitems : lexemes? ts = some (set.lexemes.map (Lexeme.map Clause.ofCondition)) := by
          simpa [lexemes?] using hread []
        have hmeans : Predicate.ofText? text = some (tree.map Clause.ofCondition) := by
          rw [Predicate.ofText?, hlex.eq_some, Option.bind_some, hitems, Option.bind_some, hgroup]
        -- The empty text says nothing, so that the clause is there.
        have hne : text.isEmpty = false := by
          rw [String.isEmpty_eq_false_iff]
          rintro rfl
          exact Option.some_ne_none _ (hmeans.symm.trans Predicate.ofText?_empty)
        rw [whereClause, htext, Except.map, hne] at h
        cases h
        rw [htree]
        exact ⟨text, rfl, hmeans⟩

/-- A set has a text just when each of its conditions is well-typed. -/
theorem whereClause_isOk_iff (set : ConditionSet) :
    (∃ clause, whereClause set = .ok clause) ↔ ∀ c ∈ set.leaves, ¬ c.IsIllTyped := by
  simp only [exists_ok_iff, ne_eq, whereClause_eq_error_iff, ← not_exists,
    set.exists_toSql_eq_error_iff]
  simp only [not_exists, not_and]

end ConditionSet

/-- What is made of a result is there just when the result is. -/
theorem exists_map_eq_ok_iff {ε α β : Type} (f : α → β) (result : Except ε α) :
    (∃ b, result.map f = .ok b) ↔ ∃ a, result = .ok a := by
  cases result with
  | error e => exact iff_of_false (by rintro ⟨_, ⟨⟩⟩) (by rintro ⟨_, ⟨⟩⟩)
  | ok a => exact iff_of_true ⟨_, rfl⟩ ⟨a, rfl⟩

namespace Join

variable {base : Select} {steps : List JoinStep}

/-- The text of a join, given its `WHERE` clause. -/
theorem toSql_build (base : Select) (steps : List JoinStep) :
    (build base steps).toSql = (whereClause (build base steps).conditions).map fun condition =>
      "SELECT " ++ ", ".intercalate ((sides base steps).flatMap fun s =>
          s.selection.qualified s.table) ++
        " FROM " ++ base.table ++
        String.join (steps.map fun s => " " ++ s.on.toSql base.table) ++ condition ++
        orderClause ((sides base steps).flatMap fun s =>
            s.filter.ascending.map fun column => s.table ++ "." ++ column)
          ((sides base steps).flatMap fun s =>
            s.filter.descending.map fun column => s.table ++ "." ++ column) ++
        limitClause ((sides base steps).filterMap (·.filter.limit)).min? ++ ";" := by
  have h := build_gathers base steps
  rw [toSql]
  cases whereClause (build base steps).conditions with
  | error e => rfl
  | ok condition =>
      simp only [h.table, h.selections, h.joins, h.ascending, h.descending, h.limit,
        List.flatMap_map, List.map_flatMap, List.map_map]
      rfl

/-- A join has a text just when the select of every side has one. -/
theorem toSql_build_isOk_iff (base : Select) (steps : List JoinStep) :
    (∃ text, (build base steps).toSql = .ok text) ↔
      ∀ s ∈ sides base steps, ∃ text, s.toSql = .ok text := by
  -- Naming the table of a condition does not touch what it may be refused for.
  have hqualified (s : Select) (c : Condition) :
      (c.qualified s.table).IsIllTyped ↔ c.IsIllTyped := Iff.rfl
  have hside (s : Select) : (∃ text, s.toSql = .ok text) ↔
      ∀ c ∈ s.filter.conditions.leaves, ¬ c.IsIllTyped :=
    (exists_map_eq_ok_iff ..).trans (ConditionSet.whereClause_isOk_iff _)
  rw [toSql_build, exists_map_eq_ok_iff, ConditionSet.whereClause_isOk_iff,
    (build_gathers base steps).leaves]
  simp only [hside, List.mem_flatMap, List.mem_map]
  constructor
  · intro h s hs c hc
    exact (hqualified s c).not.mp (h _ ⟨s, hs, c, hc, rfl⟩)
  · rintro h _ ⟨s, hs, c, hc, rfl⟩
    exact (hqualified s c).not.mpr (h s hs c hc)

/-- The conditions of a join of named selects are on named columns. -/
theorem isNamed_build (h : ∀ s ∈ sides base steps, s.IsNamed) :
    ∀ c ∈ (build base steps).conditions.leaves, c.IsNamed := by
  intro c hc
  rw [(build_gathers base steps).leaves] at hc
  obtain ⟨s, hs, hc⟩ := List.mem_flatMap.mp hc
  obtain ⟨d, hd, rfl⟩ := List.mem_map.mp hc
  obtain ⟨htable, hkeys⟩ := h s hs
  exact ⟨hkeys d hd, fun table ht => Option.mem_some_iff.mp ht ▸ htable⟩

/-- A join gathers the columns, conditions, orderings and limits of its sides, each on the table of
its side.  The order of the sides does not matter to the limit, and the join has a text just when
every side has one.  The conditions in that text read back as those of the sides, grouped to the
left under the connectives of the joins. -/
theorem build_spec (base : Select) (steps : List JoinStep) :
    (build base steps).Gathers base steps ∧
      ((build base steps).limit = none ↔ ∀ s ∈ sides base steps, s.filter.limit = none) ∧
      (∀ base' steps', (sides base' steps').Perm (sides base steps) →
        (build base' steps').limit = (build base steps).limit) ∧
      ((∃ text, (build base steps).toSql = .ok text) ↔
        ∀ s ∈ sides base steps, ∃ text, s.toSql = .ok text) ∧
      ((∀ s ∈ sides base steps, s.filter.conditions.Built ∧ s.IsNamed) →
        (∀ s ∈ sides base steps, s.predicate? = none ↔ s.filter.conditions = .empty) ∧
        ∀ text, (build base steps).toSql = .ok text → ∃ condition,
          SaysWhere condition ((merged? base steps).map (Predicate.map Clause.ofCondition)) ∧
          text = "SELECT " ++ ", ".intercalate ((sides base steps).flatMap fun s =>
              s.selection.qualified s.table) ++
            " FROM " ++ base.table ++
            String.join (steps.map fun s => " " ++ s.on.toSql base.table) ++ condition ++
            orderClause ((sides base steps).flatMap fun s =>
                s.filter.ascending.map fun column => s.table ++ "." ++ column)
              ((sides base steps).flatMap fun s =>
                s.filter.descending.map fun column => s.table ++ "." ++ column) ++
            limitClause ((sides base steps).filterMap (·.filter.limit)).min? ++ ";") := by
  have hgathers := build_gathers base steps
  refine ⟨hgathers, ?_, fun base' steps' hperm => ?_, toSql_build_isOk_iff base steps,
    fun h => ⟨fun s hs => ?_, fun text htext => ?_⟩⟩
  · rw [hgathers.limit, List.min?_eq_none_iff, List.filterMap_eq_nil_iff]
  · rw [hgathers.limit, (build_gathers base' steps').limit]
    exact min?_eq_of_perm (hperm.filterMap _)
  · rw [Select.predicate?, Option.map_eq_none_iff]
    exact (h s hs).1.nested.tree?_eq_none_iff
  · obtain ⟨hnested, htree⟩ := tree?_build fun s hs => (h s hs).1
    have hnamed := isNamed_build fun s hs => (h s hs).2
    rw [toSql_build] at htext
    cases hcondition : whereClause (build base steps).conditions with
    | error e =>
        rw [hcondition] at htext
        cases htext
    | ok condition =>
        rw [hcondition] at htext
        cases htext
        exact ⟨condition, htree ▸ hnested.says_whereClause hnamed hcondition, rfl⟩

/-- Three tables: the base has a compound set that was on another table, the next select has no
condition and is skipped, the last one has two conditions of its own. -/
theorem build_spec_three :
    let users : Select :=
      { table := "users", selection := .all
        filter :=
          { conditions := ((ConditionSet.single ⟨none, "name", .equal, some (.text "it's")⟩).or
              (.single ⟨none, "age", .isNull, none⟩)).qualified "old"
            ascending := ["age"], descending := [], limit := some 10 } }
    let pets : Select := .new "pets" (.columns ["name", "kind"])
    let homes : Select :=
      { table := "homes", selection := .columns ["city"]
        filter :=
          { conditions := (ConditionSet.single ⟨none, "city", .notEqual, none⟩).and
              (.single ⟨none, "floor", .lessThan true, some (.integer 3)⟩)
            ascending := ["floor"], descending := ["city"], limit := some 4 } }
    let steps : List JoinStep :=
      [⟨.cross, pets, "id", "owner", true⟩, ⟨.leftOuter, homes, "home", "id", false⟩]
    let text := "SELECT users.*, pets.name, pets.kind, homes.city FROM users " ++
      "CROSS JOIN pets ON users.id = pets.owner " ++
      "LEFT OUTER JOIN homes ON users.home = homes.id " ++
      "WHERE (users.name = 'it''s' OR users.age IS NULL) OR " ++
      "(homes.city IS NOT NULL AND homes.floor <= 3) " ++
      "ORDER BY users.age ASC, homes.floor ASC, homes.city DESC LIMIT 4;"
    (∀ s ∈ sides users steps, s.filter.conditions.Built ∧ s.IsNamed) ∧
      (build users steps).toSql = .ok text ∧
      ∃ condition,
        SaysWhere condition ((merged? users steps).map (Predicate.map Clause.ofCondition)) ∧
        text = "SELECT users.*, pets.name, pets.kind, homes.city FROM users " ++
          "CROSS JOIN pets ON users.id = pets.owner " ++
          "LEFT OUTER JOIN homes ON users.home = homes.id" ++ condition ++
          " ORDER BY users.age ASC, homes.floor ASC, homes.city DESC" ++ " LIMIT 4" ++ ";" := by
  intro users pets homes steps text
  have hsides : ∀ s ∈ sides users steps, s.filter.conditions.Built ∧ s.IsNamed := by
    intro s hs
    rcases (by simpa [sides, steps] using hs : s = users ∨ s = pets ∨ s = homes)
      with rfl | rfl | rfl
    · exact ⟨.qualified _ (.or (.single _) (.single _)), by decide +kernel⟩
    · exact ⟨.empty, by decide +kernel⟩
    · exact ⟨.and (.single _) (.single _), by decide +kernel⟩
  have htext : (build users steps).toSql = .ok text := by decide +kernel
  refine ⟨hsides, htext, ?_⟩
  obtain ⟨condition, hmeans, hparts⟩ := ((build_spec users steps).2.2.2.2 hsides).2 text htext
  refine ⟨condition, hmeans, hparts.trans ?_⟩
  have hbefore : "SELECT " ++ ", ".intercalate ((sides users steps).flatMap fun s =>
      s.selection.qualified s.table) ++ " FROM " ++ users.table ++
      String.join (steps.map fun s => " " ++ s.on.toSql users.table)
      = "SELECT users.*, pets.name, pets.kind, homes.city FROM users " ++
          "CROSS JOIN pets ON users.id = pets.owner " ++
          "LEFT OUTER JOIN homes ON users.home = homes.id" := by decide +kernel
  have horder : orderClause ((sides users steps).flatMap fun s =>
        s.filter.ascending.map fun column => s.table ++ "." ++ column)
      ((sides users steps).flatMap fun s =>
        s.filter.descending.map fun column => s.table ++ "." ++ column)
      = " ORDER BY users.age ASC, homes.floor ASC, homes.city DESC" := by decide +kernel
  have hlimit : limitClause ((sides users steps).filterMap (·.filter.limit)).min?
      = " LIMIT 4" := by decide +kernel
  rw [hbefore, horder, hlimit]

end Join

end SqlStore
