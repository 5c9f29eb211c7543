/-
# Queries with one text

The store is handed queries, not texts.  But everything that it asks of a query is told by the text:
the conditions by what their items mean, the columns and the tables by their names, what is assigned
by the literals.  So queries with one text have one answer and one effect, however they were built.

* `Content.select_eq`, `Content.join_eq`, `Content.update_eq`, `Content.delete_eq` : queries with
  one sentence do the same;
* `Connection.alike_of_toSql` : so queries with one text are read and run alike;
* `Db.forEachRow_eq_of_toSql`, `Db.update_eq_of_toSql`, `Db.delete_eq_of_toSql` : and so are loads,
  updates and deletes.
-/
import SqlStore.Database.Change
import SqlStore.Proofs.Store.Meaning

namespace SqlStore

/-! ## Orders and columns -/

/-- The terms of an order tell the columns that ascend from the others. -/
theorem orderTerms_inj {ascending descending ascending' descending' : List String}
    (h : orderTerms ascending descending = orderTerms ascending' descending') :
    ascending = ascending' ∧ descending = descending' := by
  have hpart (up : Bool) (xs ys : List String) :
      (orderTerms xs ys).filterMap (fun t => if t.2 = up then some t.1 else none)
        = if up then xs else ys := by
    cases up <;> simp [orderTerms, List.filterMap_map]
  constructor
  · have hup := congrArg (List.filterMap fun t => if t.2 = true then some t.1 else none) h
    rwa [hpart, hpart] at hup
  · have hdown := congrArg (List.filterMap fun t => if t.2 = false then some t.1 else none) h
    rwa [hpart, hpart] at hdown

/-- The texts of its columns tell a selection, as no column is called `*`. -/
theorem Selection.texts_inj {a b : Selection} (ha : "*" ∉ a.names) (hb : "*" ∉ b.names)
    (h : a.texts = b.texts) : a = b := by
  cases a with
  | all =>
      cases b with
      | all => rfl
      | columns names =>
          obtain rfl : ["*"] = names := h
          exact absurd List.mem_cons_self hb
  | columns names =>
      cases b with
      | all =>
          obtain rfl : names = ["*"] := h
          exact absurd List.mem_cons_self ha
      | columns names' => exact congrArg columns h

/-- The same columns, each by itself. -/
def JoinSelection.singles (s : JoinSelection) : List JoinSelection :=
  match s.selection with
  | .all => [⟨s.table, .all⟩]
  | .columns names => names.map fun name => ⟨s.table, .columns [name]⟩

/-- The column that a text names behind its first point, or all columns of the table before it. -/
def JoinSelection.ofText (text : String) : JoinSelection :=
  let name := String.ofList ((text.toList.dropWhile (· != '.')).drop 1)
  ⟨String.ofList (text.toList.takeWhile (· != '.')), if name = "*" then .all else .columns [name]⟩

theorem JoinSelection.ofText_qualified {table : String} (h : isIdentifier table = true)
    (name : String) :
    ofText (table ++ "." ++ name) = ⟨table, if name = "*" then .all else .columns [name]⟩ := by
  obtain ⟨htake, hdrop⟩ := span_qualified h name
  rw [ofText, htake, hdrop]
  simp

/-- The texts of the columns of a join tell the columns. -/
theorem JoinSelection.map_ofText {s : JoinSelection}
    (h : ∀ name ∈ s.table :: s.selection.names, isIdentifier name = true) :
    (s.selection.qualified s.table).map ofText = s.singles := by
  have htable := h s.table List.mem_cons_self
  obtain ⟨table, selection⟩ := s
  cases selection with
  | all =>
      have hall := ofText_qualified htable "*"
      simpa [Selection.qualified, singles, String.append_assoc] using hall
  | columns names =>
      rw [Selection.qualified, List.map_map, singles]
      refine List.map_congr_left fun name hname => ?_
      have hne : name ≠ "*" := by
        rintro rfl
        exact absurd (h "*" (List.mem_cons_of_mem table hname)) (by decide +kernel)
      rw [Function.comp_apply, ofText_qualified htable, if_neg hne]

/-- What is made of a list is made of its elements one by one. -/
theorem mapM_eq_flatten {ε α β : Type} (f : α → Except ε β) (as : List α) :
    as.mapM f = (as.mapM fun a => (f a).map ([·])).map List.flatten := by
  induction as with
  | nil => rfl
  | cons a as ih =>
      rw [List.mapM_cons, List.mapM_cons, ih]
      cases f a with
      | error e => rfl
      | ok b => cases as.mapM fun a => (f a).map ([·]) <;> rfl

/-- A selection of a join shows its columns one after another. -/
theorem JoinSelection.outputs_eq (scope : Scope) (s : JoinSelection) :
    s.outputs scope = (s.singles.mapM (outputs scope)).map List.flatten := by
  obtain ⟨table, selection⟩ := s
  cases selection with
  | all =>
      show outputs scope ⟨table, .all⟩
        = (do return [← outputs scope ⟨table, .all⟩]).map List.flatten
      cases outputs scope ⟨table, .all⟩ with
      | error fault => rfl
      | ok shown => exact congrArg Except.ok (List.append_nil shown).symm
  | columns names =>
      have hone (name : String) : outputs scope ⟨table, .columns [name]⟩
          = ((scope.position table name).map Output.column).map ([·]) := by
        show (do return [← (scope.position table name).map Output.column]) = _
        cases scope.position table name <;> rfl
      show names.mapM (fun name => (scope.position table name).map .column)
        = ((names.map fun name => ⟨table, .columns [name]⟩).mapM (outputs scope)).map List.flatten
      rw [mapM_eq_flatten, List.mapM_map]
      simp only [Function.comp_def, hone]

/-- What a join shows depends on its columns, however they come together. -/
theorem mapM_outputs_singles (scope : Scope) (selections : List JoinSelection) :
    (selections.mapM (JoinSelection.outputs scope)).map List.flatten
      = ((selections.flatMap JoinSelection.singles).mapM (JoinSelection.outputs scope)).map
        List.flatten := by
  induction selections with
  | nil => rfl
  | cons s selections ih =>
      rw [List.mapM_cons, List.flatMap_cons, List.mapM_append, JoinSelection.outputs_eq]
      cases s.singles.mapM (JoinSelection.outputs scope) with
      | error fault => rfl
      | ok shown =>
          cases hrest : selections.mapM (JoinSelection.outputs scope) with
          | error fault =>
              rw [hrest] at ih
              rw [map_eq_error_iff.mp ih.symm]
              rfl
          | ok rest =>
              rw [hrest] at ih
              obtain ⟨rest', hrest', hflatten⟩ := map_eq_ok_iff.mp ih.symm
              rw [hrest']
              show Except.ok (shown.flatten :: rest).flatten = .ok (shown ++ rest').flatten
              rw [List.flatten_cons, List.flatten_append, hflatten]

/-- What a join shows is told by the texts of its columns. -/
theorem mapM_outputs_eq {selections selections' : List JoinSelection}
    (h : ∀ s ∈ selections, ∀ name ∈ s.table :: s.selection.names, isIdentifier name = true)
    (h' : ∀ s ∈ selections', ∀ name ∈ s.table :: s.selection.names, isIdentifier name = true)
    (heq : (selections.flatMap fun s => s.selection.qualified s.table)
      = selections'.flatMap fun s => s.selection.qualified s.table) (scope : Scope) :
    (selections.mapM (JoinSelection.outputs scope)).map List.flatten
      = (selections'.mapM (JoinSelection.outputs scope)).map List.flatten := by
  have hread {selections : List JoinSelection}
      (h : ∀ s ∈ selections, ∀ name ∈ s.table :: s.selection.names, isIdentifier name = true) :
      (selections.flatMap fun s => s.selection.qualified s.table).map JoinSelection.ofText
        = selections.flatMap JoinSelection.singles := by
    rw [List.map_flatMap]
    exact List.flatMap_congr fun s hs => JoinSelection.map_ofText (h s hs)
  have hsingles : selections.flatMap JoinSelection.singles
      = selections'.flatMap JoinSelection.singles := by
    rw [← hread h, ← hread h', heq]
  rw [mapM_outputs_singles, hsingles, ← mapM_outputs_singles]

/-- The texts of columns after their tables tell the columns. -/
theorem ColumnInTable.eq_of_map_toSql {cs cs' : List ColumnInTable}
    (h : ∀ c ∈ cs, isIdentifier c.table = true ∧ isIdentifier c.column = true)
    (h' : ∀ c ∈ cs', isIdentifier c.table = true ∧ isIdentifier c.column = true)
    (heq : cs.map toSql = cs'.map toSql) : cs = cs' := by
  let read (c : ColumnInTable) : Option ColumnName := some ⟨some c.table, c.column⟩
  have hread {cs : List ColumnInTable}
      (h : ∀ c ∈ cs, isIdentifier c.table = true ∧ isIdentifier c.column = true) :
      (cs.map toSql).map ColumnName.ofWord? = cs.map read := by
    rw [List.map_map]
    exact List.map_congr_left fun c hc => ColumnName.ofWord?_qualified (h c hc).1 (h c hc).2
  have hinjective : Function.Injective read := by
    rintro ⟨table, column⟩ ⟨table', column'⟩ hsame
    cases hsame
    rfl
  refine List.map_injective_iff.mpr hinjective ?_
  rw [← hread h, ← hread h', heq]

/-! ## Queries -/

namespace Content

variable (c : Content)

/-- Deletes that tell one sentence do the same. -/
theorem delete_eq {d d' : Delete} (h : (Query.delete d).sentence = (Query.delete d').sentence) :
    c.delete d = c.delete d' := by
  obtain ⟨htable, hset⟩ := Sentence.delete.inj h
  simp only [delete, ConditionSet.test_eq, htable, hset]

/-- Updates that tell one sentence do the same: an assignment is its column and its literal. -/
theorem update_eq {u u' : Update} (h : (Query.update u).sentence = (Query.update u').sentence) :
    c.update u = c.update u' := by
  obtain ⟨htable, hassignments, hset⟩ := Sentence.update.inj h
  have hassign (t : StoredTable) (u : Update) :
      (u.replace.mapM fun a => do
        let i ← t.position a.column
        let cell ← orMalformed (Cell.ofOperand? a.value)
        return (i, (t.scope.affinity i).store cell))
      = (u.replace.map fun a => (a.column, Literal.ofOption a.value)).mapM fun a => do
        let i ← t.position a.1
        let cell ← orMalformed a.2.cell?
        return (i, (t.scope.affinity i).store cell) := by
    rw [List.mapM_map]
    simp only [Function.comp_def, Literal.cell?_ofOption]
  simp only [update, hassign, ConditionSet.test_eq, htable, hassignments, hset]

/-- Selects that tell one sentence have one answer. -/
theorem select_eq {s s' : Select} (hs : "*" ∉ s.selection.names) (hs' : "*" ∉ s'.selection.names)
    (h : (Query.select s).sentence = (Query.select s').sentence) : c.select s = c.select s' := by
  obtain ⟨table, selection, ⟨conditions, ascending, descending, limit⟩⟩ := s
  obtain ⟨table', selection', ⟨conditions', ascending', descending', limit'⟩⟩ := s'
  obtain ⟨htexts, rfl, -, hset, horder, rfl⟩ := Sentence.rows.inj h
  obtain rfl := Selection.texts_inj hs hs' htexts
  obtain ⟨rfl, rfl⟩ := orderTerms_inj horder
  simp only [select, selectPlan, ConditionSet.test_eq, hset]

/-- Joins that tell one sentence have one answer. -/
theorem join_eq {j j' : Join} (hj : (Query.join j).IsNamed) (hj' : (Query.join j').IsNamed)
    (h : (Query.join j).sentence = (Query.join j').sentence) : c.join j = c.join j' := by
  obtain ⟨-, -, hshown, -, -, hterms⟩ := hj
  obtain ⟨-, -, hshown', -, -, hterms'⟩ := hj'
  obtain ⟨hcolumns, hbase, hjoins, hset, horder, hlimit⟩ := Sentence.rows.inj h
  obtain ⟨hup, hdown⟩ := orderTerms_inj horder
  rw [List.forall_mem_append] at hterms hterms'
  have hascending := ColumnInTable.eq_of_map_toSql hterms.1 hterms'.1 hup
  have hdescending := ColumnInTable.eq_of_map_toSql hterms.2 hterms'.2 hdown
  have hsource : c.joinSource j = c.joinSource j' := by rw [joinSource, joinSource, hbase, hjoins]
  have hplan : c.joinPlan j = c.joinPlan j' := by
    rw [joinPlan, joinPlan, hsource, hascending, hdescending, hlimit]
    refine bind_congr fun source => ?_
    rw [ConditionSet.test_eq, ConditionSet.test_eq, hset]
    -- The sides may share out the columns differently: only all of them together are the same.
    have hshown := mapM_outputs_eq hshown hshown' hcolumns source.scope
    cases hshows : j.selections.mapM (JoinSelection.outputs source.scope) with
    | error fault =>
        rw [hshows] at hshown
        rw [map_eq_error_iff.mp hshown.symm]
    | ok shown =>
        rw [hshows] at hshown
        obtain ⟨shown', hshows', hflatten⟩ := map_eq_ok_iff.mp hshown.symm
        rw [hshows']
        simp only [bind, Except.bind, hflatten]
  rw [join, join, hplan]

end Content

/-- A select is told from a join, whose columns all have a point. -/
theorem Query.sentence_select_ne {s : Select} {j : Join} (hs : (select s).IsNamed)
    (hj : (join j).IsNamed) : (select s).sentence ≠ (join j).sentence := by
  intro h
  obtain ⟨hcolumns, -⟩ := Sentence.rows.inj h
  obtain ⟨text, htext⟩ := List.exists_mem_of_ne_nil _ hj.2.1
  have hpoint : '.' ∈ text.toList := by
    obtain ⟨side, -, hside⟩ := List.mem_flatMap.mp htext
    cases hselection : side.selection with
    | all =>
        rw [hselection] at hside
        simp [List.mem_singleton.mp hside]
    | columns names =>
        rw [hselection] at hside
        obtain ⟨name, -, rfl⟩ := List.mem_map.mp hside
        simp
  rw [← hcolumns] at htext
  cases hselection : s.selection with
  | all =>
      rw [hselection] at htext
      obtain rfl := List.mem_singleton.mp htext
      exact absurd hpoint (by decide)
  | columns names =>
      rw [hselection] at htext
      have hshown := hs.2.2.1 text (by rw [hselection]; exact htext)
      rcases hshown with hname | rfl
      · exact absurd (ne_point_of_isIdentifier hname '.' hpoint) (by decide)
      · exact absurd hpoint (by decide)

namespace Connection

variable {q r : Query}

/-- What a connection makes of a query is what its content does. -/
theorem run_query_congr
    (hrun : ∀ content : Content, content.run (.query q) = content.run (.query r))
    (hwrites : ∀ content : Content, content.writes (.query q) = content.writes (.query r))
    (hover : ∀ count, (Statement.query q).overwrites count = (Statement.query r).overwrites count)
    (c : Connection) : c.run (.query q) = c.run (.query r) := by
  show (if c.readOnly then c.content.runReadOnly (.query q) else c.content.run (.query q)).map _
    = (if c.readOnly then c.content.runReadOnly (.query r) else c.content.run (.query r)).map _
  simp only [Content.runReadOnly, hrun, hwrites, hover]

/-- Queries with one text have one answer and one effect. -/
theorem alike_of_toSql (hq : q.IsNamed) (hr : r.IsNamed) {text : String} (h : q.toSql = .ok text)
    (h' : r.toSql = .ok text) (c : Connection) :
    c.read q = c.read r ∧ c.run (.query q) = c.run (.query r) := by
  have hsentence := Query.sentence_eq_of_toSql hq hr h h'
  have hstar {s : Select} (hs : (Query.select s).IsNamed) : "*" ∉ s.selection.names := by
    intro hmem
    rcases hs.2.2.1 "*" hmem with hname | hname
    · exact absurd hname (by decide +kernel)
    · exact absurd hname (by decide)
  cases q with
  | select s =>
      cases r with
      | select s' =>
          have hselect (content : Content) := content.select_eq (hstar hq) (hstar hr) hsentence
          have hrun (content : Content) :
              content.run (.query (.select s)) = content.run (.query (.select s')) := by
            rw [Content.run, Content.run, hselect]
          exact ⟨hselect c.content, run_query_congr hrun (fun _ => rfl) (fun _ => rfl) c⟩
      | join j => exact absurd hsentence (Query.sentence_select_ne hq hr)
      | update | delete => cases hsentence
  | join j =>
      cases r with
      | join j' =>
          have hjoin (content : Content) := content.join_eq hq hr hsentence
          have hrun (content : Content) :
              content.run (.query (.join j)) = content.run (.query (.join j')) := by
            rw [Content.run, Content.run, hjoin]
          exact ⟨hjoin c.content, run_query_congr hrun (fun _ => rfl) (fun _ => rfl) c⟩
      | select s => exact absurd hsentence.symm (Query.sentence_select_ne hr hq)
      | update | delete => cases hsentence
  | update u =>
      cases r with
      | update u' =>
          have hrun (content : Content) :
              content.run (.query (.update u)) = content.run (.query (.update u')) :=
            content.update_eq hsentence
          exact ⟨rfl, run_query_congr hrun (fun _ => rfl) (fun _ => rfl) c⟩
      | select | join | delete => cases hsentence
  | delete d =>
      cases r with
      | delete d' =>
          have hrun (content : Content) :
              content.run (.query (.delete d)) = content.run (.query (.delete d')) :=
            content.delete_eq hsentence
          -- A delete of every row has written even where there is none; it is one without items.
          have hover (count : Nat) : (Statement.query (.delete d)).overwrites count
              = (Statement.query (.delete d')).overwrites count := by
            show d.conditions.isEmpty = d'.conditions.isEmpty
            rw [← ConditionSet.isEmpty_said, ← ConditionSet.isEmpty_said,
              (Sentence.delete.inj hsentence).2]
          exact ⟨rfl, run_query_congr hrun (fun _ => rfl) hover c⟩
      | select | join | update => cases hsentence

end Connection

namespace Db

variable {q r : Query} {text : String}

/-- Queries with one text hand the same rows to a body, and so do all loads. -/
theorem forEachRow_eq_of_toSql {α : Type} (body : Cursor → Db α) (hq : q.IsNamed) (hr : r.IsNamed)
    (h : q.toSql = .ok text) (h' : r.toSql = .ok text) : forEachRow q body = forEachRow r body := by
  have hread (c : Connection) : c.read q = c.read r := (c.alike_of_toSql hq hr h h').1
  simp only [forEachRow, rows, hread, h, h']

variable {Column Entity : Type} {t : Table Column Entity}

/-- Updates of a table with one text do the same. -/
theorem update_eq_of_toSql {u u' : UpdateQuery t} (hu : (Query.update u.statement).IsNamed)
    (hu' : (Query.update u'.statement).IsNamed) (h : u.statement.toSql = .ok text)
    (h' : u'.statement.toSql = .ok text) : update u = update u' := by
  have hrun (c : Connection) := (c.alike_of_toSql hu hu' h h').2
  simp only [update, runStatement, hrun, h, h']

/-- Deletes from a table with one text do the same. -/
theorem delete_eq_of_toSql {d d' : DeleteQuery t} (hd : (Query.delete d.statement).IsNamed)
    (hd' : (Query.delete d'.statement).IsNamed) (h : d.statement.toSql = .ok text)
    (h' : d'.statement.toSql = .ok text) : delete d = delete d' := by
  have hrun (c : Connection) := (c.alike_of_toSql hd hd' h h').2
  simp only [delete, runStatement, hrun, h, h']

end Db

end SqlStore
