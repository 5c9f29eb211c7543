/-
# Filters that are added one after another

A select, an update and a delete take filters one at a time, and each is joined to those before it
by `AND`.  What they come to is one condition set, the same for all three: it is empty only if all
filters are, keeps their conditions in order, and says that all of them hold.

* `ConditionSet.conjunction` : what filters come to;
* `Shows`, `ConditionSet.shows_toSql` : the conditions that a text shows one after another;
* `ConditionSet.truth`, `ConditionSet.truth_conjunction` : its truth value in a row;
* `Filtered`, `filters_kept` : the `WHERE` clause of the statements.
-/
import SqlStore.Proofs.Query.Join
import SqlStore.Table.Sample

namespace SqlStore

/-! ## What filters come to -/

namespace ConditionSet

/-- What filters come to that are added one after another to nothing. -/
def conjunction (filters : List ConditionSet) : ConditionSet := filters.foldl and empty

/-- The predicates of the filters under `AND`, grouped to the left.  A filter without conditions is
skipped. -/
def conjoined? (filters : List ConditionSet) : Option (Predicate Condition) :=
  filters.foldl (fun p f => p.merge (.compound .and) f.tree?) none

variable {filters : List ConditionSet} {f : ConditionSet}

/-- The last filter is joined to the others. -/
theorem conjunction_concat : conjunction (filters ++ [f]) = (conjunction filters).and f := by
  rw [conjunction, List.foldl_append]
  rfl

theorem conjoined?_concat : conjoined? (filters ++ [f])
    = (conjoined? filters).merge (.compound .and) f.tree? := by
  rw [conjoined?, List.foldl_append]
  rfl

/-- Only two empty sets combine to the empty set. -/
theorem combine_eq_empty_iff (op : Connective) (left right : ConditionSet) :
    combine op left right = empty ↔ left = empty ∧ right = empty := by
  rw [combine.eq_def]
  split
  · simp
  · simp
  · rename_i hleft hright
    exact iff_of_false (fun h => by cases h) fun h => hleft h.1

/-- Only filters that are all empty come to nothing. -/
theorem conjunction_eq_empty_iff : conjunction filters = empty ↔ ∀ f ∈ filters, f = empty := by
  induction filters using List.reverseRecOn with
  | nil => simp [conjunction]
  | append_singleton filters f ih =>
      rw [conjunction_concat, and, combine_eq_empty_iff, ih, List.forall_mem_append,
        List.forall_mem_singleton]

/-- Every condition of every filter is kept, in order. -/
theorem leaves_conjunction : (conjunction filters).leaves = filters.flatMap leaves := by
  induction filters using List.reverseRecOn with
  | nil => rfl
  | append_singleton filters f ih =>
      rw [conjunction_concat, and, leaves_combine, ih, List.flatMap_append, List.flatMap_singleton]

/-- Filters that are built are nested, and their trees come under `AND`. -/
theorem tree?_conjunction (h : ∀ f ∈ filters, f.Built) :
    (conjunction filters).Nested ∧ (conjunction filters).tree? = conjoined? filters := by
  induction filters using List.reverseRecOn with
  | nil => exact ⟨trivial, rfl⟩
  | append_singleton filters f ih =>
      obtain ⟨hnested, htree⟩ := ih fun g hg => h g (List.mem_append_left _ hg)
      have hf := (h f (by simp)).nested
      rw [conjunction_concat, conjoined?_concat, ← htree]
      exact ⟨hnested.combine .and hf, hnested.tree?_combine .and hf⟩

end ConditionSet

/-! ## The conditions in a text -/

/-- The condition of an item, if it is one. -/
def Lexeme.leaf? {Leaf : Type} : Lexeme Leaf → Option Leaf
  | leaf a => some a
  | connective _ | opening | closing => none

/-- What an item is written as, given the text of its condition. -/
def Lexeme.text : Lexeme String → String
  | leaf text => text
  | connective op => " " ++ op.keyword ++ " "
  | opening => "("
  | closing => ")"

/-- The parts stand in the text one after another, each once; nothing else does but connectives and
parentheses. -/
def Shows (text : String) (parts : List String) : Prop :=
  ∃ items : List (Lexeme String), items.filterMap Lexeme.leaf? = parts ∧
    text = String.join (items.map Lexeme.text)

theorem shows_empty : Shows "" [] := ⟨[], rfl, rfl⟩

theorem shows_leaf (text : String) : Shows text [text] := ⟨[.leaf text], rfl, by simp [Lexeme.text]⟩

/-- Two texts with a connective between them. -/
theorem Shows.connective {l r : String} {ps qs : List String} (hl : Shows l ps) (op : Connective)
    (hr : Shows r qs) : Shows (l ++ " " ++ op.keyword ++ " " ++ r) (ps ++ qs) := by
  obtain ⟨xs, rfl, rfl⟩ := hl
  obtain ⟨ys, rfl, rfl⟩ := hr
  refine ⟨xs ++ .connective op :: ys, by simp [List.filterMap_cons, Lexeme.leaf?], ?_⟩
  simp [Lexeme.text, String.append_assoc]

/-- A text in parentheses, if it is capsuled. -/
theorem Shows.wrap {text : String} {ps : List String} (h : Shows text ps) (capsuled : Bool) :
    Shows (ConditionSet.wrap capsuled text) ps := by
  obtain ⟨xs, rfl, rfl⟩ := h
  cases capsuled with
  | false => exact ⟨xs, rfl, rfl⟩
  | true =>
      refine ⟨.opening :: xs ++ [.closing], by simp [List.filterMap_cons, Lexeme.leaf?], ?_⟩
      simp [Lexeme.text, ConditionSet.wrap, String.append_assoc]

/-- A membership test has a text that is not empty. -/
theorem membership_ne_empty (column keyword : String) {constant : String} (h : constant ≠ "")
    (items : List Value) : membership column keyword constant items ≠ "" := by
  cases items with
  | nil => exact h
  | cons v vs => simp [membership]

/-- So does every condition. -/
theorem Condition.toSql_ne_empty {c : Condition} {text : String} (h : c.toSql = .ok text) :
    text ≠ "" := by
  unfold toSql at h
  split at h
  -- Membership tests are what the list makes of them; the other texts have a fixed part.
  case h_7 | h_8 =>
    cases hitems : listOperand c.value with
    | error e =>
        rw [hitems] at h
        cases h
    | ok items =>
        rw [hitems] at h
        cases h
        exact membership_ne_empty _ _ (by decide) items
  all_goals
    cases h
    simp

namespace ConditionSet

/-- The text of a set shows the text of each of its conditions, in order. -/
theorem shows_toSql {set : ConditionSet} {text : String} (h : set.toSql = .ok text) :
    ∃ parts, set.leaves.mapM Condition.toSql = .ok parts ∧ Shows text parts := by
  induction set generalizing text with
  | empty =>
      cases h
      exact ⟨[], rfl, shows_empty⟩
  | single c =>
      have hc : c.toSql = .ok text := h
      refine ⟨[text], ?_, shows_leaf text⟩
      rw [leaves, List.mapM_cons, hc]
      rfl
  | compound op left right capsuled ihl ihr =>
      obtain ⟨l, r, hl, hr, rfl⟩ := toSql_compound h
      obtain ⟨ps, hps, hshowsl⟩ := ihl hl
      obtain ⟨qs, hqs, hshowsr⟩ := ihr hr
      refine ⟨ps ++ qs, ?_, (hshowsl.connective op hshowsr).wrap capsuled⟩
      rw [leaves, List.mapM_append, hps, hqs]
      rfl

/-- Only the empty set has the empty text. -/
theorem toSql_eq_empty_iff {set : ConditionSet} {text : String} (h : set.toSql = .ok text) :
    text = "" ↔ set = empty := by
  cases set with
  | empty =>
      cases h
      exact iff_of_true rfl rfl
  | single c => exact iff_of_false (Condition.toSql_ne_empty h) nofun
  | compound op left right capsuled =>
      obtain ⟨l, r, -, -, rfl⟩ := toSql_compound h
      refine iff_of_false ?_ nofun
      cases capsuled <;> simp [wrap]

/-- The clause of a set is absent if the set is empty, and only then. -/
theorem whereClause_cases {set : ConditionSet} {clause : String}
    (h : whereClause set = .ok clause) :
    (set = empty ∧ clause = "") ∨
      (set ≠ empty ∧ ∃ text, set.toSql = .ok text ∧ clause = " WHERE " ++ text) := by
  unfold whereClause at h
  cases htext : set.toSql with
  | error e =>
      rw [htext] at h
      cases h
  | ok text =>
      rw [htext] at h
      cases h
      have hempty := toSql_eq_empty_iff htext
      rw [← String.isEmpty_iff] at hempty
      by_cases hset : set = empty
      · exact .inl ⟨hset, if_pos (hempty.mpr hset)⟩
      · exact .inr ⟨hset, text, rfl, if_neg (mt hempty.mp hset)⟩

end ConditionSet

/-! ## Truth values -/

/-- An item as it is. -/
theorem Lexeme.map_id {Leaf : Type} (item : Lexeme Leaf) : item.map id = item := by
  cases item <;> rfl

/-- What is true changes nothing under `AND`. -/
theorem Connective.apply_true_left (b : Option Bool) : Connective.and.apply (some true) b = b := by
  cases b <;> rfl

theorem Connective.apply_true_right (a : Option Bool) : Connective.and.apply a (some true) = a := by
  rcases a with _ | _ | _ <;> rfl

section

variable (scope : Scope) (row : List Cell)

namespace Predicate

/-- A predicate with its own leaves. -/
theorem map_id {Leaf : Type} (p : Predicate Leaf) : p.map id = p := by
  induction p with
  | leaf a => rfl
  | compound op left right ihl ihr => rw [map, ihl, ihr]

/-- The truth value of a predicate in a row. -/
def truth (p : Predicate Condition) : Except Fault (Option Bool) :=
  (p.resolve scope).map (·.eval row)

theorem truth_compound (op : Connective) (left right : Predicate Condition) :
    (compound op left right).truth scope row = do
      return op.apply (← left.truth scope row) (← right.truth scope row) := by
  unfold truth
  rw [resolve]
  cases left.resolve scope with
  | error fault => rfl
  | ok l => cases right.resolve scope <;> rfl

end Predicate

namespace ConditionSet

/-- The truth value of a set in a row; the empty set is true. -/
def truth (set : ConditionSet) : Except Fault (Option Bool) := (set.test scope).map (·.eval row)

/-- The truth value of a nested set is that of its tree. -/
theorem Nested.truth_eq {set : ConditionSet} (hn : set.Nested) :
    set.truth scope row = set.tree?.elim (.ok (some true)) (Predicate.truth scope row) := by
  unfold truth test
  by_cases hempty : set = empty
  · subst hempty
    rfl
  · obtain ⟨tree, htree, hgroup⟩ := hn.ofLexemes? id hempty
    have hitems : set.lexemes.map (Lexeme.map id) = set.lexemes := by
      rw [funext Lexeme.map_id, List.map_id']
    have hfilled : set.isEmpty = false := by
      cases set with
      | empty => exact absurd rfl hempty
      | single c => rfl
      | compound op left right capsuled => rfl
    rw [hitems, tree.map_id] at hgroup
    rw [hfilled, htree, hgroup]
    rfl

/-- The truth value of an `AND` is that of both sides. -/
theorem Nested.truth_and {left right : ConditionSet} (hl : left.Nested) (hr : right.Nested) :
    (left.and right).truth scope row = do
      return Connective.and.apply (← left.truth scope row) (← right.truth scope row) := by
  rw [and, (hl.combine .and hr).truth_eq, hl.tree?_combine .and hr, hl.truth_eq, hr.truth_eq]
  -- A side without a tree has no conditions, and what is true changes nothing.
  cases left.tree? with
  | none =>
      cases right.tree? with
      | none => rfl
      | some r =>
          show r.truth scope row = (r.truth scope row).map (Connective.and.apply (some true))
          cases r.truth scope row with
          | error fault => rfl
          | ok b => exact congrArg Except.ok (Connective.apply_true_left b).symm
  | some l =>
      cases right.tree? with
      | none =>
          show l.truth scope row = (l.truth scope row).map (Connective.and.apply · (some true))
          cases l.truth scope row with
          | error fault => rfl
          | ok a => exact congrArg Except.ok (Connective.apply_true_right a).symm
      | some r => exact Predicate.truth_compound scope row .and l r

/-- The truth value of filters that are built is that of all of them under `AND`. -/
theorem truth_conjunction {filters : List ConditionSet} (h : ∀ f ∈ filters, f.Built) :
    (conjunction filters).truth scope row
      = (filters.mapM (truth scope row)).map (List.foldl Connective.and.apply (some true)) := by
  induction filters using List.reverseRecOn with
  | nil => rfl
  | append_singleton filters f ih =>
      have hbefore : ∀ g ∈ filters, g.Built := fun g hg => h g (List.mem_append_left _ hg)
      have hf := (h f (by simp)).nested
      rw [conjunction_concat, (tree?_conjunction hbefore).1.truth_and scope row hf, ih hbefore,
        List.mapM_append, List.mapM_cons, List.mapM_nil]
      cases filters.mapM (truth scope row) with
      | error fault => rfl
      | ok before =>
          cases f.truth scope row with
          | error fault => rfl
          | ok b =>
              show Except.ok (Connective.and.apply (before.foldl _ _) b)
                = .ok ((before ++ [b]).foldl _ _)
              rw [List.foldl_append]
              rfl

end ConditionSet

end

/-! ## Statements -/

/-- What is asked of a select, one after another. -/
inductive SelectStep (Column : Type)
  | filter (conditions : ConditionSet)
  | orderBy (column : Column) (ascending : Bool)
  | limitTo (count : UInt64)

/-- The filter that a step adds, if it does. -/
def SelectStep.filter? {Column : Type} : SelectStep Column → Option ConditionSet
  | filter conditions => some conditions
  | orderBy _ _ | limitTo _ => none

section

variable {Column Entity : Type} {t : Table Column Entity}

namespace SelectQuery

/-- The query after one more step. -/
def step (q : SelectQuery t) : SelectStep Column → SelectQuery t
  | .filter conditions => q.filter conditions
  | .orderBy column ascending => q.orderBy column ascending
  | .limitTo count => q.limitTo count

/-- A select of some columns, with what has been asked of it. -/
def build (t : Table Column Entity) (selection : Selection) (steps : List (SelectStep Column)) :
    SelectQuery t :=
  steps.foldl step ⟨selection, .none⟩

variable {selection : Selection} {steps : List (SelectStep Column)}

/-- A step that adds a filter joins it to the conditions, and the others leave them. -/
theorem conditions_step (q : SelectQuery t) (s : SelectStep Column) :
    (q.step s).filters.conditions
      = s.filter?.elim q.filters.conditions q.filters.conditions.and := by
  cases s with
  | filter conditions => rfl
  | orderBy column ascending => cases ascending <;> rfl
  | limitTo count => rfl

theorem selection_step (q : SelectQuery t) (s : SelectStep Column) :
    (q.step s).selection = q.selection := by
  cases s <;> rfl

theorem build_concat (s : SelectStep Column) :
    build t selection (steps ++ [s]) = (build t selection steps).step s := by
  rw [build, List.foldl_append]
  rfl

/-- The conditions are what the filters come to, whatever stands between them. -/
theorem conditions_build : (build t selection steps).filters.conditions
    = .conjunction (steps.filterMap SelectStep.filter?) := by
  induction steps using List.reverseRecOn with
  | nil => rfl
  | append_singleton steps s ih =>
      rw [build_concat, conditions_step, ih, List.filterMap_append]
      cases hs : s.filter? with
      | none => simp [hs]
      | some f =>
          rw [List.filterMap_cons_some hs, List.filterMap_nil, ConditionSet.conjunction_concat]
          rfl

theorem selection_build : (build t selection steps).selection = selection := by
  induction steps using List.reverseRecOn with
  | nil => rfl
  | append_singleton steps s ih => rw [build_concat, selection_step, ih]

end SelectQuery

/-- An update with filters that are added one after another. -/
def UpdateQuery.build (t : Table Column Entity) (replace : List Condition)
    (filters : List ConditionSet) : UpdateQuery t :=
  filters.foldl (fun q f => q.filter f) (.new t replace)

theorem UpdateQuery.build_eq (replace : List Condition) (filters : List ConditionSet) :
    build t replace filters
      = ⟨replace.filterMap Assignment.ofCondition?, .conjunction filters⟩ :=
  List.foldl_hom (UpdateQuery.mk (replace.filterMap Assignment.ofCondition?)) fun _ _ => rfl

/-- A delete with filters that are added one after another. -/
def DeleteQuery.build (t : Table Column Entity) (filters : List ConditionSet) : DeleteQuery t :=
  filters.foldl (fun q f => q.filter f) (.all t)

theorem DeleteQuery.build_eq (filters : List ConditionSet) :
    build t filters = ⟨.conjunction filters⟩ :=
  List.foldl_hom DeleteQuery.mk fun _ _ => rfl

/-! ## The clause -/

/-- What a `WHERE` clause keeps of the filters of a statement. -/
structure Filtered (filters : List ConditionSet) (clause : String) : Prop where
  /-- There is none just if every filter is empty. -/
  absent : clause = "" ↔ ∀ f ∈ filters, f = .empty
  /-- Otherwise it shows the text of every condition of every filter, once and in order. -/
  shows : clause ≠ "" → ∃ text parts, clause = " WHERE " ++ text ∧
    (filters.flatMap ConditionSet.leaves).mapM Condition.toSql = .ok parts ∧ Shows text parts
  /-- It says that all filters hold that are not empty, if they are built. -/
  groups : (∀ f ∈ filters, f.Built) → (∀ f ∈ filters, ∀ c ∈ f.leaves, c.IsNamed) →
    SaysWhere clause
      ((ConditionSet.conjoined? filters).map (Predicate.map Clause.ofCondition))

/-- The clause of what filters come to keeps them. -/
theorem filtered_whereClause {filters : List ConditionSet} {clause : String}
    (h : whereClause (.conjunction filters) = .ok clause) : Filtered filters clause := by
  have hcases := ConditionSet.whereClause_cases h
  constructor
  case absent =>
    rw [← ConditionSet.conjunction_eq_empty_iff]
    rcases hcases with ⟨hempty, rfl⟩ | ⟨hempty, text, -, rfl⟩
    · exact iff_of_true rfl hempty
    · exact iff_of_false (by simp) hempty
  case shows =>
    intro hne
    rcases hcases with ⟨-, rfl⟩ | ⟨-, text, htext, rfl⟩
    · exact absurd rfl hne
    · obtain ⟨parts, hparts, hshows⟩ := ConditionSet.shows_toSql htext
      rw [ConditionSet.leaves_conjunction] at hparts
      exact ⟨text, parts, rfl, hparts, hshows⟩
  case groups =>
    intro hbuilt hnamed
    obtain ⟨hnested, htree⟩ := ConditionSet.tree?_conjunction hbuilt
    rw [← htree]
    refine hnested.says_whereClause (fun c hc => ?_) h
    rw [ConditionSet.leaves_conjunction] at hc
    obtain ⟨f, hf, hc⟩ := List.mem_flatMap.mp hc
    exact hnamed f hf c hc

/-- A select, an update and a delete of the same filters have the same `WHERE` clause, which keeps
them all.  A row meets filters that are built as far as it meets every one of them. -/
theorem filters_kept (t : Table Column Entity) (selection : Selection)
    (steps : List (SelectStep Column)) (replace : List Condition) :
    let filters := steps.filterMap SelectStep.filter?
    let set := ConditionSet.conjunction filters
    let select := (SelectQuery.build t selection steps).statement
    let update := (UpdateQuery.build t replace filters).statement
    let delete := (DeleteQuery.build t filters).statement
    (select.filter.conditions = set ∧ update.conditions = set ∧ delete.conditions = set) ∧
      select.toSql = (whereClause set).map (fun clause =>
        "SELECT " ++ selection.toSql ++ " FROM " ++ t.name ++ clause ++
          orderClause select.filter.ascending select.filter.descending ++
          limitClause select.filter.limit ++ ";") ∧
      (update.toSql = if update.replace.isEmpty then .error (.noAssignments t.name)
        else (whereClause set).map fun clause =>
          "UPDATE " ++ t.name ++ " SET " ++
            ", ".intercalate (update.replace.map Assignment.toSql) ++ clause ++ ";") ∧
      delete.toSql = (whereClause set).map (fun clause =>
        "DELETE FROM " ++ t.name ++ clause ++ ";") ∧
      (∀ clause, whereClause set = .ok clause → Filtered filters clause) ∧
      ((∀ f ∈ filters, f.Built) → ∀ scope row, set.truth scope row
        = (filters.mapM (ConditionSet.truth scope row)).map
            (List.foldl Connective.and.apply (some true))) := by
  intro filters set select update delete
  have hconditions : select.filter.conditions = set := SelectQuery.conditions_build
  have hselection : select.selection = selection := SelectQuery.selection_build
  have hupdate : update = ⟨t.name, replace.filterMap Assignment.ofCondition?, set⟩ :=
    congrArg UpdateQuery.statement (UpdateQuery.build_eq replace filters)
  have hdelete : delete = ⟨t.name, set⟩ :=
    congrArg DeleteQuery.statement (DeleteQuery.build_eq filters)
  refine ⟨⟨hconditions, by rw [hupdate], by rw [hdelete]⟩, ?_, ?_, ?_,
    fun clause hclause => filtered_whereClause hclause,
    fun hbuilt scope row => ConditionSet.truth_conjunction scope row hbuilt⟩
  · unfold Select.toSql
    rw [hconditions, hselection]
    cases whereClause set <;> rfl
  · rw [hupdate]
    unfold Update.toSql
    cases whereClause set <;> rfl
  · rw [hdelete]
    unfold Delete.toSql
    cases whereClause set <;> rfl

/-- Three filters, the second of them empty, with an order and a limit between them. -/
theorem filters_kept_three :
    let age : Condition := ⟨none, "age", .isNull, none⟩
    let name : Condition := ⟨none, "name", .equal, some (.text "it's")⟩
    let id : Condition := ⟨none, "userID", .greaterThan false, some (.integer 3)⟩
    let filters : List ConditionSet :=
      [(ConditionSet.single name).or (.single age), .empty, .single id]
    let steps : List (SelectStep UserColumn) :=
      [.filter ((ConditionSet.single name).or (.single age)), .orderBy .age true, .filter .empty,
        .limitTo 2, .filter (.single id)]
    let clause := " WHERE (name = 'it''s' OR age IS NULL) AND userID > 3"
    (SelectQuery.build users .all steps).statement.toSql
        = .ok ("SELECT * FROM users" ++ clause ++ " ORDER BY age ASC LIMIT 2;") ∧
      (UpdateQuery.build users [.on "age" .equal (some (.integer 1))] filters).statement.toSql
        = .ok ("UPDATE users SET age = 1" ++ clause ++ ";") ∧
      (DeleteQuery.build users filters).statement.toSql
        = .ok ("DELETE FROM users" ++ clause ++ ";") ∧
      SaysWhere clause (some (.compound .and
        (.compound .or (.leaf (.ofCondition name)) (.leaf (.ofCondition age)))
        (.leaf (.ofCondition id)))) := by
  intro age name id filters steps clause
  obtain ⟨-, hselect, hupdate, hdelete, hkept, -⟩ :=
    filters_kept users .all steps [.on "age" .equal (some (.integer 1))]
  have hclause : whereClause (.conjunction filters) = .ok clause := by decide +kernel
  have hbuilt : ∀ f ∈ filters, f.Built := by
    intro f hf
    rcases (by simpa [filters] using hf :
        f = (ConditionSet.single name).or (.single age) ∨ f = .empty ∨ f = .single id)
      with rfl | rfl | rfl
    · exact .or (.single _) (.single _)
    · exact .empty
    · exact .single _
  have hnamed : ∀ f ∈ filters, ∀ c ∈ f.leaves, c.IsNamed := by decide +kernel
  exact ⟨hselect.trans (by decide +kernel), hupdate.trans (by decide +kernel),
    hdelete.trans (by decide +kernel), (hkept clause hclause).groups hbuilt hnamed⟩

end

end SqlStore
