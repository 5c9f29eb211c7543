/-
# The order of the steps of a select

A select is built by steps that add a filter, a column to order by or a limit.  Steps of different
kinds do not see each other: what a select holds is told by its filters that are not empty, by the
columns of either direction, each in order, and by its last limit.

* `Filter.ofSteps` : what steps come to, of the steps of each kind alone;
* `Filter.step_ofSteps`, `Select.build_eq` : one more step, and all of them;
* `SelectStep.Agree`, `Select.steps_commute` : sequences of steps that come to the same.
-/
import SqlStore.Proofs.Query.Filter

namespace SqlStore

/-! ## Steps of one kind -/

namespace SelectStep

section

variable {Column Column' : Type}

/-- The column that a step orders by, if it orders in the given direction. -/
def column? (ascending : Bool) : SelectStep Column → Option Column
  | orderBy column direction => if direction = ascending then some column else none
  | filter _ | limitTo _ => none

/-- The limit that a step sets, if it does. -/
def limit? : SelectStep Column → Option UInt64
  | limitTo count => some count
  | filter _ | orderBy _ _ => none

/-- The step with its column under another name. -/
def map (name : Column → Column') : SelectStep Column → SelectStep Column'
  | filter conditions => filter conditions
  | orderBy column ascending => orderBy (name column) ascending
  | limitTo count => limitTo count

/-- The filters of several steps that are not empty. -/
def filters (steps : List (SelectStep Column)) : List ConditionSet :=
  (steps.filterMap filter?).filter (!·.isEmpty)

/-- The columns that several steps order by in the given direction. -/
def columns (ascending : Bool) (steps : List (SelectStep Column)) : List Column :=
  steps.filterMap (column? ascending)

/-- The last limit that several steps set. -/
def lastLimit (steps : List (SelectStep Column)) : Option UInt64 :=
  (steps.filterMap limit?).getLast?

/-- Two sequences of steps ask for the same, one kind of step at a time. -/
structure Agree (steps steps' : List (SelectStep Column)) : Prop where
  filters : SelectStep.filters steps = SelectStep.filters steps'
  ascending : columns true steps = columns true steps'
  descending : columns false steps = columns false steps'
  limit : lastLimit steps = lastLimit steps'

variable (name : Column → Column') (steps : List (SelectStep Column))

theorem filters_map : filters (steps.map (map name)) = filters steps := by
  have hfilter : filter? ∘ map name = filter? := by
    funext s
    cases s <;> rfl
  rw [filters, List.filterMap_map, hfilter, filters]

theorem columns_map (ascending : Bool) :
    columns ascending (steps.map (map name)) = (columns ascending steps).map name := by
  have hcolumn : column? ascending ∘ map name = fun s => (column? ascending s).map name := by
    funext s
    cases s with
    | filter conditions => rfl
    | orderBy column direction => by_cases h : direction = ascending <;> simp [map, column?, h]
    | limitTo count => rfl
  rw [columns, List.filterMap_map, hcolumn, columns, List.map_filterMap]

theorem lastLimit_map : lastLimit (steps.map (map name)) = lastLimit steps := by
  have hlimit : limit? ∘ map name = limit? := by
    funext s
    cases s <;> rfl
  rw [lastLimit, List.filterMap_map, hlimit, lastLimit]

variable (s : SelectStep Column)

/-- One more step is one more of its kind. -/
theorem filters_concat :
    filters (steps ++ [s]) = filters steps ++ s.filter?.toList.filter (!·.isEmpty) := by
  rw [filters, List.filterMap_append, List.filter_append]
  rfl

theorem columns_concat (ascending : Bool) :
    columns ascending (steps ++ [s]) = columns ascending steps ++ (s.column? ascending).toList := by
  rw [columns, List.filterMap_append]
  rfl

theorem lastLimit_concat : lastLimit (steps ++ [s]) = s.limit?.or (lastLimit steps) := by
  have hlast : s.limit?.toList.getLast? = s.limit? := by cases s.limit? <;> rfl
  rw [lastLimit, List.filterMap_append, List.getLast?_append]
  exact congrArg (·.or (lastLimit steps)) hlast

variable {steps} {steps' : List (SelectStep Column)}

/-- Other names for the columns change nothing in that. -/
theorem Agree.map (h : Agree steps steps') :
    Agree (steps.map (SelectStep.map name)) (steps'.map (SelectStep.map name)) := by
  constructor
  · rw [filters_map, filters_map, h.filters]
  · rw [columns_map, columns_map, h.ascending]
  · rw [columns_map, columns_map, h.descending]
  · rw [lastLimit_map, lastLimit_map, h.limit]

end

end SelectStep

/-! ## What steps come to -/

namespace ConditionSet

/-- An empty set adds nothing. -/
theorem and_empty (set : ConditionSet) : set.and empty = set := by
  cases set with
  | empty => rfl
  | single c => rfl
  | compound op left right capsuled => rfl

/-- A filter that is empty may be left out. -/
theorem conjunction_concat_filter (filters : List ConditionSet) (f : ConditionSet) :
    conjunction (filters ++ [f].filter (!·.isEmpty)) = (conjunction filters).and f := by
  cases f with
  | empty => exact (congrArg conjunction filters.append_nil).trans (and_empty _).symm
  | single c => exact conjunction_concat
  | compound op left right capsuled => exact conjunction_concat

end ConditionSet

namespace Filter

/-- The filter after one more step, whose column is given by its name. -/
def step (f : Filter) : SelectStep String → Filter
  | .filter conditions => f.filter conditions
  | .orderBy column ascending => f.orderBy column ascending
  | .limitTo count => f.limitTo count

/-- What steps come to. -/
def ofSteps (steps : List (SelectStep String)) : Filter where
  conditions := .conjunction (SelectStep.filters steps)
  ascending := SelectStep.columns true steps
  descending := SelectStep.columns false steps
  limit := SelectStep.lastLimit steps

/-- A step changes what its kind of steps comes to, and nothing else. -/
theorem step_ofSteps (steps : List (SelectStep String)) (s : SelectStep String) :
    (ofSteps steps).step s = ofSteps (steps ++ [s]) := by
  simp only [ofSteps, SelectStep.filters_concat, SelectStep.columns_concat,
    SelectStep.lastLimit_concat]
  cases s with
  | filter conditions =>
      have hconditions :=
        ConditionSet.conjunction_concat_filter (SelectStep.filters steps) conditions
      simp [step, filter, SelectStep.filter?, SelectStep.column?, SelectStep.limit?, ← hconditions]
  | orderBy column ascending =>
      cases ascending <;>
        simp [step, orderBy, SelectStep.filter?, SelectStep.column?, SelectStep.limit?]
  | limitTo count =>
      simp [step, limitTo, SelectStep.filter?, SelectStep.column?, SelectStep.limit?]

/-- Steps that agree come to the same. -/
theorem ofSteps_congr {steps steps' : List (SelectStep String)}
    (h : SelectStep.Agree steps steps') : ofSteps steps = ofSteps steps' := by
  rw [ofSteps, ofSteps, h.filters, h.ascending, h.descending, h.limit]

end Filter

/-! ## Selects -/

namespace Select

/-- A select of some columns of a table, after several steps. -/
def build (table : String) (selection : Selection) (steps : List (SelectStep String)) : Select :=
  steps.foldl (fun s step => s.refine (·.step step)) (.new table selection)

variable (table : String) (selection : Selection) (steps : List (SelectStep String))

/-- The steps change the filter alone, and it is what they come to. -/
theorem build_eq : build table selection steps = ⟨table, selection, .ofSteps steps⟩ := by
  induction steps using List.reverseRecOn with
  | nil => rfl
  | append_singleton steps s ih =>
      rw [← Filter.step_ofSteps]
      unfold build at ih ⊢
      rw [List.foldl_append, ih]
      rfl

/-- The text of a select after several steps. -/
theorem toSql_build : (build table selection steps).toSql
    = (whereClause (.conjunction (SelectStep.filters steps))).map fun clause =>
      "SELECT " ++ selection.toSql ++ " FROM " ++ table ++ clause ++
        orderClause (SelectStep.columns true steps) (SelectStep.columns false steps) ++
        limitClause (SelectStep.lastLimit steps) ++ ";" := by
  rw [build_eq, toSql, Filter.ofSteps]
  cases whereClause (.conjunction (SelectStep.filters steps)) <;> rfl

variable {Column Entity : Type} (t : Table Column Entity)

/-- A typed select is the select of the names of its columns. -/
theorem statement_build (steps : List (SelectStep Column)) :
    (SelectQuery.build t selection steps).statement
      = build t.name selection (steps.map (SelectStep.map t.columnName)) := by
  induction steps using List.reverseRecOn with
  | nil => rfl
  | append_singleton steps s ih =>
      rw [SelectQuery.build_concat, List.map_append, build, List.foldl_append, ← build, ← ih]
      cases s <;> rfl

end Select

/-- The `ORDER BY` clause is absent if there is no column to order by, and only then. -/
theorem orderClause_eq (ascending descending : List String) :
    orderClause ascending descending =
      if ascending = [] ∧ descending = [] then ""
      else " ORDER BY " ++
        ", ".intercalate (ascending.map (· ++ " ASC") ++ descending.map (· ++ " DESC")) := by
  unfold orderClause
  split
  · rename_i hterms
    rw [if_pos]
    simpa using hterms
  · rename_i hterms
    rw [if_neg]
    rintro ⟨rfl, rfl⟩
    exact hterms rfl

/-- Steps of different kinds commute.  Two sequences of steps that agree in their filters that are
not empty, in their ascending and in their descending columns and in their last limit make the same
select, with the same text or the same error; the text orders by the ascending columns first, and by
the descending ones after them. -/
theorem Select.steps_commute (selection : Selection) :
    (∀ table (steps steps' : List (SelectStep String)), SelectStep.Agree steps steps' →
      build table selection steps = build table selection steps' ∧
        (build table selection steps).toSql = (build table selection steps').toSql) ∧
    (∀ table (steps : List (SelectStep String)),
      let ascending := SelectStep.columns true steps
      let descending := SelectStep.columns false steps
      (build table selection steps).toSql
        = (whereClause (.conjunction (SelectStep.filters steps))).map fun clause =>
          "SELECT " ++ selection.toSql ++ " FROM " ++ table ++ clause ++
            (if ascending = [] ∧ descending = [] then ""
              else " ORDER BY " ++
                ", ".intercalate (ascending.map (· ++ " ASC") ++ descending.map (· ++ " DESC"))) ++
            limitClause (SelectStep.lastLimit steps) ++ ";") ∧
    ∀ {Column Entity : Type} (t : Table Column Entity),
      (∀ steps, (SelectQuery.build t selection steps).statement
        = build t.name selection (steps.map (SelectStep.map t.columnName))) ∧
      ∀ steps steps', SelectStep.Agree steps steps' →
        let select := (SelectQuery.build t selection steps).statement
        let select' := (SelectQuery.build t selection steps').statement
        select = select' ∧ select.toSql = select'.toSql := by
  have hagree (table : String) {steps steps' : List (SelectStep String)}
      (h : SelectStep.Agree steps steps') :
      build table selection steps = build table selection steps' := by
    rw [build_eq, build_eq, Filter.ofSteps_congr h]
  refine ⟨fun table steps steps' h => ?_, fun table steps => ?_, fun t => ⟨?_, ?_⟩⟩
  · have hbuild := hagree table h
    exact ⟨hbuild, congrArg toSql hbuild⟩
  · intro ascending descending
    rw [toSql_build, orderClause_eq]
  · exact statement_build selection t
  · intro steps steps' h select select'
    have hselect : select = select' :=
      calc select
        _ = build t.name selection (steps.map (SelectStep.map t.columnName)) :=
          statement_build selection t steps
        _ = build t.name selection (steps'.map (SelectStep.map t.columnName)) :=
          hagree t.name (h.map t.columnName)
        _ = select' := (statement_build selection t steps').symm
    exact ⟨hselect, congrArg toSql hselect⟩

/-- The same filters, columns and limit, in an order of their own and with an empty filter and an
earlier limit among them. -/
theorem Select.steps_commute_users :
    let age : ConditionSet := .single ⟨none, "age", .greaterThan true, some (.integer 18)⟩
    let name : ConditionSet := .single ⟨none, "name", .notEqual, none⟩
    let mixed : List (SelectStep UserColumn) :=
      [.orderBy .name false, .limitTo 9, .filter age, .orderBy .age true, .filter .empty,
        .orderBy .userId false, .filter name, .limitTo 2]
    let sorted : List (SelectStep UserColumn) :=
      [.filter age, .filter name, .orderBy .age true, .orderBy .name false, .orderBy .userId false,
        .limitTo 2]
    SelectStep.Agree mixed sorted ∧
      (SelectQuery.build users .all mixed).statement
        = (SelectQuery.build users .all sorted).statement ∧
      (SelectQuery.build users .all mixed).statement.toSql
        = .ok ("SELECT * FROM users WHERE age >= 18 AND name IS NOT NULL " ++
          "ORDER BY age ASC, name DESC, userID DESC LIMIT 2;") := by
  intro age name mixed sorted
  have hagree : SelectStep.Agree mixed sorted := ⟨rfl, rfl, rfl, rfl⟩
  obtain ⟨-, -, htyped⟩ := steps_commute .all
  obtain ⟨hselect, htext⟩ := (htyped users).2 mixed sorted hagree
  exact ⟨hagree, hselect, htext.trans (by decide +kernel)⟩

end SqlStore
