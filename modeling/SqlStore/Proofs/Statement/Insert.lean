/-
# Columns and values of an insert

An insert shows two lists, the names of the columns and the literals of their values, and a row is
read in the order of the same columns.  The lists stay in step whatever the values hold, so a row
that is made of the literals is read the same by position and by name.

* `Literal.ofText?` : what a text that is one literal says;
* `RowReader.Finds` : a value that is read by its position and by the name of its column;
* `Table.insert_aligned` : the names and the literals of an insert, and the row that they make.
-/
import Mathlib.Data.List.Nodup
import SqlStore.Proofs.Condition.Clause
import SqlStore.Proofs.Row.Reads
import SqlStore.Proofs.Statement.Listing
import SqlStore.Table.Sample

namespace SqlStore

/-! ## Literals -/

/-- What a text says that is one literal and nothing else. -/
def Literal.ofText? (text : String) : Option Literal :=
  match (tokens? text.toList).bind literal? with
  | some (v, []) => some v
  | _ => none

theorem SpellsLiteral.ofText? {text : String} {v : Literal} (h : SpellsLiteral text.toList v) :
    Literal.ofText? text = some v := by
  obtain ⟨ts, hlex, hread⟩ := h
  have hliteral := literal?_append hread []
  rw [List.append_nil] at hliteral
  rw [Literal.ofText?, hlex.eq_some, Option.bind_some, hliteral]

/-! ## Reading a row -/

namespace RowReader

/-- The types that columns are read as, one column after another. -/
abbrev Reads := List ((α : Type) × Readable α)

/-- Positional reads whose results nobody uses. -/
def skip : Reads → RowReader Unit
  | [] => return ()
  | ⟨α, _⟩ :: rest => do
      let _ ← next α
      skip rest

theorem run_skip_bind {α : Type} (before : Reads) (reader : RowReader α) (c : Cursor) :
    (do skip before; reader).run.run c
      = reader.run.run { c with index := c.index + before.length } := by
  induction before generalizing c with
  | nil => rfl
  | cons first before ih =>
      have hnext : (do skip (first :: before); reader).run.run c
          = (do skip before; reader).run.run c.advance := rfl
      rw [hnext, ih, Cursor.advance, List.length_cons, Nat.add_assoc, Nat.add_comm 1]

/-- What is read behind other reads. -/
theorem decode_skip {α : Type} (before : Reads) (reader : RowReader α) (names : List String)
    (row : Row) :
    (do skip before; reader).decode names row
      = (reader.run.run ⟨names, row, before.length⟩).1 := by
  rw [decode, run_skip_bind, Cursor.ofRow, Nat.zero_add]

/-- A column of a row that is read as the given value by its position and by its name, as any type
and behind any other reads. -/
structure Finds (names : List String) (row : Row) (i : Nat) (name : String) (v : Option Value) :
    Prop where
  next : ∀ before : Reads, before.length = i → ∀ (α : Type) [Readable α],
    (do skip before; next α).decode names row = .ok (v.bind Readable.ofValue?)
  require : ∀ before : Reads, before.length = i → ∀ (α : Type) [Readable α],
    (do skip before; require α).decode names row
      = (v.bind Readable.ofValue?).elim (.error (.unreadable i name (Readable.typeName α))) .ok
  get? : ∀ (before : Reads) (α : Type) [Readable α],
    (do skip before; get? α name).decode names row = .ok (v.bind Readable.ofValue?)

/-- The first column of a name that no other column has. -/
theorem idxOf?_of_nodup {names : List String} (hdistinct : names.Nodup) {i : Nat} {name : String}
    (hname : names[i]? = some name) : names.idxOf? name = some i := by
  obtain ⟨hi, hname⟩ := List.getElem?_eq_some_iff.mp hname
  refine List.idxOf?_eq_some_iff.mpr ⟨hi, by simp [hname], fun j hj => ?_⟩
  rw [← hname, hdistinct.getElem_inj_iff]
  omega

/-- A name that no other column has finds the value at its position. -/
theorem finds_of_getElem? {names : List String} (hdistinct : names.Nodup) {row : Row} {i : Nat}
    {name : String} {v : Option Value} (hname : names[i]? = some name) (hv : row[i]? = some v) :
    Finds names row i name v := by
  have hvalue (α : Type) [Readable α] (k : Nat) :
      (⟨names, row, k⟩ : Cursor).valueAt? α i = v.bind Readable.ofValue? := by
    rw [Cursor.valueAt?, hv]
    rfl
  refine ⟨fun before hbefore α _ => ?_, fun before hbefore α _ => ?_, fun before α _ => ?_⟩
  · rw [decode_skip, hbefore, ← hvalue α i]
    rfl
  · rw [decode_skip, hbefore, run_require, hvalue, Cursor.unreadable, hname]
    rfl
  · have hget : ((RowReader.get? α name).run.run ⟨names, row, before.length⟩).1
        = .ok ((names.idxOf? name).bind (Cursor.valueAt? α ⟨names, row, before.length⟩)) := rfl
    rw [decode_skip, hget, idxOf?_of_nodup hdistinct hname, Option.bind_some, hvalue]

end RowReader

/-! ## Inserts -/

namespace Table

variable {Column Entity : Type} (t : Table Column Entity) (e : Entity)

/-- The literals of an entity in canonical order. -/
def literals : List String := t.columns.map fun c => Value.literal (t.scalar e c)

/-- The literals of an entity are read as what its values say. -/
theorem mapM_ofText?_literals :
    (t.literals e).mapM Literal.ofText?
      = some (t.columns.map fun c => Literal.ofOption (t.scalar e c)) := by
  have hread (c : Column) :
      Literal.ofText? (Value.literal (t.scalar e c)) = some (Literal.ofOption (t.scalar e c)) :=
    (spellsLiteral_option (t.scalar e c)).ofText?
  rw [literals, List.mapM_map]
  simp only [Function.comp_def, hread]
  exact List.mapM_pure

/-- What an insert shows behind the name of the table. -/
def insertClause : String :=
  " " ++ ("(" ++ ", ".intercalate t.columnNames ++ ")") ++ " VALUES " ++
    ("(" ++ ", ".intercalate (t.literals e) ++ ")") ++ ";"

theorem toSql_insert (policy : ConflictPolicy) :
    (t.insert e policy).toSql
      = .ok ("INSERT OR " ++ policy.keyword ++ " INTO " ++ t.name ++ t.insertClause e) := by
  have hserialize : (t.serialize e).map Value.literal = t.literals e := by
    rw [serialize, List.map_map]
    rfl
  rw [insert, Statement.toSql, hserialize]
  congr 1
  exact String.toList_inj.mp (by simp [insertClause])

/-- The clause shows the names and the literals, and nothing else. -/
theorem lists?_insertClause (hcolumns : t.columns ≠ [])
    (hnames : ∀ c ∈ t.columns, IsWord (t.columnName c)) :
    lists? (t.insertClause e) = some [t.columnNames, t.literals e] := by
  have hnamesList : ShowsLists ("(" ++ ", ".intercalate t.columnNames ++ ")") [t.columnNames] := by
    refine lists_parens (by simpa [columnNames] using hcolumns) fun name hname => ?_
    obtain ⟨c, hc, rfl⟩ := List.mem_map.mp hname
    exact (hnames c hc).item
  have hliterals : ShowsLists ("(" ++ ", ".intercalate (t.literals e) ++ ")") [t.literals e] := by
    refine lists_parens (by simpa [literals] using hcolumns) fun text htext => ?_
    obtain ⟨c, -, rfl⟩ := List.mem_map.mp htext
    exact Value.item_literal _
  have hblank : Unmarked " ".toList := by decide
  have hvalues : Unmarked " VALUES ".toList := by decide
  have hend : Unmarked ";".toList := by decide
  have hclause := (((hblank.lists.append hnamesList (unquoted_parens _)).append hvalues.lists
    hvalues.unquoted).append hliterals (unquoted_parens _)).append hend.lists hend.unquoted
  exact hclause.lists?_eq

/-- An insert shows the names of the columns and the literals of their values in the same order.
Whatever values the literals are read as, in the row that they make each column is found by its
position and by its name alike. -/
theorem insert_aligned (policy : ConflictPolicy) (hcolumns : t.columns ≠ [])
    (hnames : ∀ c ∈ t.columns, IsWord (t.columnName c)) (hdistinct : t.columnNames.Nodup) :
    ∃ (clause : String) (literals : List String) (said : List Literal),
      (t.insert e policy).toSql
        = .ok ("INSERT OR " ++ policy.keyword ++ " INTO " ++ t.name ++ clause) ∧
      lists? clause = some [t.columns.map t.columnName, literals] ∧
      literals = t.columns.map (fun c => Value.literal (t.scalar e c)) ∧
      literals.mapM Literal.ofText? = some said ∧
      ∀ (value : Literal → Option Value) (i : Nat) (c : Column), t.columns[i]? = some c →
        RowReader.Finds t.columnNames (said.map value) i (t.columnName c)
          (value (Literal.ofOption (t.scalar e c))) := by
  refine ⟨t.insertClause e, t.literals e, t.columns.map fun c => Literal.ofOption (t.scalar e c),
    t.toSql_insert e policy, t.lists?_insertClause e hcolumns hnames, rfl,
    t.mapM_ofText?_literals e, fun value i c hc => ?_⟩
  refine RowReader.finds_of_getElem? hdistinct ?_ ?_
  · rw [columnNames, List.getElem?_map, hc, Option.map_some]
  · rw [List.getElem?_map, List.getElem?_map, hc, Option.map_some, Option.map_some]

theorem insert_aligned_users :
    ∃ clause,
      (users.insert ⟨-7, "O'Hara, (Jr", none, some ""⟩ .ignore).toSql
        = .ok ("INSERT OR IGNORE INTO users" ++ clause) ∧
      lists? clause = some [["userID", "name", "age", "nickname"],
        ["-7", "'O''Hara, (Jr'", "NULL", "''"]] ∧
      ∀ value : Literal → Option Value,
        RowReader.Finds ["userID", "name", "age", "nickname"]
          (([.integer (-7), .text "O'Hara, (Jr", .null, .text ""] : List Literal).map value) 1
          "name" (value (.text "O'Hara, (Jr")) := by
  obtain ⟨clause, literals, said, htext, hlists, rfl, hsaid, hfinds⟩ :=
    insert_aligned users ⟨-7, "O'Hara, (Jr", none, some ""⟩ .ignore (by decide) (by decide)
      (by decide)
  have hread := mapM_ofText?_literals users ⟨-7, "O'Hara, (Jr", none, some ""⟩
  cases hsaid.symm.trans hread
  refine ⟨clause, htext, ?_, fun value => hfinds value 1 .name rfl⟩
  rw [hlists]
  decide

end Table

end SqlStore
