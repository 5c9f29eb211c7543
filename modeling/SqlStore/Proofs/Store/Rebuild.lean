/-
# Rebuilding a table

A table gets another layout by a detour: some of its columns are copied into an empty table that
has that layout, the table is dropped, and the other one takes its name.  A copied row holds in
every column what is copied to it, or else the default, as the column stores it; only the column
that is the number of the row holds a new number where it would be left without one.

* `StoredTable.Receives` : a row that has been copied;
* `StoredTable.insertRow_eq_ok`, `StoredTable.copied_eq_ok` : one row, and all rows of a table;
* `Content.drop_eq_ok`, `Content.rename_eq_ok` : the tables after a drop, and after another name;
* `Content.Rebuilds`, `Content.rebuilds_of_run` : the three statements.
-/
import Mathlib.Data.List.Find
import SqlStore.Proofs.Store.Change

namespace SqlStore

namespace StoredTable

variable {t : StoredTable} {new old : List Nat}

/-! ## Cells that are copied -/

/-- A row that has been copied.  A column that is copied to holds the cell of the old column that
goes with it, and another one its default, as the column stores them; but the column that is the
number of the row holds that: the cell that is copied to it, or a new number if none is or the cell
is `NULL`.
-/
structure Receives (t : StoredTable) (new old : List Nat) (source row : StoredRow) : Prop where
  length : row.cells.length = t.columns.length
  copied : ∀ (i j k : Nat) column, new[i]? = some k → old[i]? = some j →
    t.columns[k]? = some column → t.idColumn ≠ some k →
    row.cells[k]? = some (column.affinity.store (cellAt source.cells j))
  filled : ∀ (k : Nat) column, k ∉ new → t.columns[k]? = some column → t.idColumn ≠ some k →
    row.cells[k]? = some (column.affinity.store column.default)
  numbered : ∀ k, t.idColumn = some k → k < t.columns.length →
    row.cells[k]? = some (.integer row.id)
  number : ∀ i j k : Nat, new[i]? = some k → old[i]? = some j → t.idColumn = some k →
    k < t.columns.length →
    Affinity.integer.store (cellAt source.cells j) = .integer row.id ∨
      Affinity.integer.store (cellAt source.cells j) = .null

section

variable {pairs : List (Nat × Cell)} {k : Nat} {cell : Cell}

/-- What is paired with a key that stands once is found under it. -/
theorem lookup_of_mem (h : (pairs.map Prod.fst).Nodup) (hmem : (k, cell) ∈ pairs) :
    pairs.lookup k = some cell := by
  induction pairs with
  | nil => cases hmem
  | cons pair pairs ih =>
      obtain ⟨key, value⟩ := pair
      obtain ⟨hkey, hrest⟩ := List.nodup_cons.mp h
      rcases List.mem_cons.mp hmem with heq | hin
      · cases heq
        exact List.lookup_cons_self
      · have hne : (k == key) = false := by
          rw [beq_eq_false_iff_ne]
          rintro rfl
          exact hkey (List.mem_map.mpr ⟨_, hin, rfl⟩)
        rw [List.lookup_cons, hne]
        exact ih hrest hin

/-- A key that does not stand there has nothing under it. -/
theorem lookup_of_not_mem (h : k ∉ pairs.map Prod.fst) : pairs.lookup k = none := by
  refine List.lookup_eq_none_iff.mpr fun pair hpair => ?_
  rw [bne_iff_ne]
  rintro rfl
  exact h (List.mem_map_of_mem hpair)

end

section

variable {cells : List Cell} {k : Nat} {column : StoredColumn}

/-- A column that is named once takes the cell that goes with it. -/
theorem getElem?_spread_of_mem (hnew : new.Nodup) (hlength : new.length = old.length) {i j : Nat}
    (hi : new[i]? = some k) (hj : old[i]? = some j) (hk : t.columns[k]? = some column) :
    (t.spread new (old.map (cellAt cells)))[k]? = some (cellAt cells j) := by
  have hkeys : (new.zip (old.map (cellAt cells))).map Prod.fst = new :=
    List.map_fst_zip (by rw [List.length_map, hlength])
  have hmem : (k, cellAt cells j) ∈ new.zip (old.map (cellAt cells)) := by
    refine List.mem_of_getElem? (i := i) (List.getElem?_zip_eq_some.mpr ⟨hi, ?_⟩)
    rw [List.getElem?_map, hj]
    rfl
  -- No key stands twice, so that it does not matter from which end it is looked for.
  have hlookup (pairs : List (Nat × Cell))
      (hpairs : pairs.Perm (new.zip (old.map (cellAt cells)))) :
      pairs.lookup k = some (cellAt cells j) := by
    have hfirsts := (hpairs.map Prod.fst).trans (.of_eq hkeys)
    exact lookup_of_mem (hfirsts.nodup_iff.mpr hnew) (hpairs.mem_iff.mpr hmem)
  unfold spread
  rw [List.getElem?_mapIdx, hk]
  refine congrArg some ?_
  split
  · rw [hlookup _ (List.reverse_perm _)]
    rfl
  · rw [hlookup _ (.refl _)]
    rfl

/-- One that is not named takes its default, unless it is the number of the row. -/
theorem getElem?_spread_of_not_mem (given : List Cell) (hk : t.columns[k]? = some column)
    (hnone : k ∉ new) (hne : t.idColumn ≠ some k) :
    (t.spread new given)[k]? = some column.default := by
  have hid : (t.idColumn == some k) = false := beq_eq_false_iff_ne.mpr hne
  have hkeys : k ∉ (new.zip given).map Prod.fst := by
    rintro hmem
    obtain ⟨pair, hpair, rfl⟩ := List.mem_map.mp hmem
    exact hnone (List.of_mem_zip hpair).1
  unfold spread
  rw [List.getElem?_mapIdx, hk]
  refine congrArg some ?_
  simp only [hid, Bool.false_eq_true, if_false, lookup_of_not_mem hkeys, Option.getD_none]

end

/-! ## One row -/

/-- Without a policy a row is added among the others, in none of whose numbers it is. -/
theorem insertRow_eq_ok {cells : List Cell} {next : StoredTable}
    (h : t.insertRow none cells = .ok next) :
    ∃ id lastId, (match t.idColumn with
        | some i => t.idOf (cellAt cells i)
        | none => t.nextId) = .ok id ∧
      (∀ r ∈ t.rows, id ≠ r.id) ∧
      next = { t with rows := place (t.numbered id (t.stored cells)) t.rows, lastId } := by
  unfold insertRow at h
  extract_lets rest at h
  have hsplit : ∃ id, (match t.idColumn with
      | some i => t.idOf (cellAt cells i)
      | none => t.nextId) = .ok id ∧ rest id = .ok next := by
    cases hcolumn : t.idColumn with
    | none =>
        rw [hcolumn] at h
        exact bind_eq_ok_iff.mp h
    | some i =>
        rw [hcolumn] at h
        exact bind_eq_ok_iff.mp h
  obtain ⟨id, hid, hrest⟩ := hsplit
  have hcounted : (if t.counting then { t with lastId := max t.lastId id } else t)
      = { t with lastId := if t.counting then max t.lastId id else t.lastId } := by
    split <;> rfl
  have hpolicy : (none == some ConflictPolicy.replace) = false := rfl
  simp only [rest, hpolicy, hcounted, Bool.false_eq_true, if_false] at hrest
  split at hrest
  · cases hrest
  · split at hrest
    · cases hrest
    · rename_i hfree
      cases hrest
      refine ⟨id, _, hid, fun r hr heq => hfree ?_, rfl⟩
      refine List.any_eq_true.mpr ⟨r, hr, ?_⟩
      have hsame : ((t.numbered id (t.stored cells)).id == r.id) = true := beq_iff_eq.mpr heq
      exact Bool.or_eq_true_iff.mpr (.inl hsame)

/-- The number that a cell gives is its own, unless it is `NULL`. -/
theorem idOf_eq_ok {cell : Cell} {id : Int64} (h : t.idOf cell = .ok id) :
    Affinity.integer.store cell = .integer id ∨ Affinity.integer.store cell = .null := by
  unfold idOf at h
  split at h
  · rename_i hnull
    exact .inr hnull
  · rename_i n hn
    cases h
    exact .inl hn
  · cases h

/-- A row that is inserted holds the cells that it is given, and its number. -/
theorem getElem?_numbered {id : Int64} {cells : List Cell} {k : Nat} {column : StoredColumn}
    {cell : Cell} (hk : t.columns[k]? = some column) (hcell : cells[k]? = some cell)
    (hne : t.idColumn ≠ some k) :
    (t.numbered id (t.stored cells)).cells[k]? = some (column.affinity.store cell) := by
  have hstored : (t.stored cells)[k]? = some (column.affinity.store cell) := by
    rw [stored, List.getElem?_zipWith, hk, hcell]
  unfold numbered
  cases hcolumn : t.idColumn with
  | none => exact hstored
  | some i =>
      have hik : i ≠ k := fun h => hne (hcolumn.trans (congrArg some h))
      exact (List.getElem?_set_ne hik).trans hstored

/-- So a row that is copied receives its cells. -/
theorem receives_of_insertRow (hnew : new.Nodup) (hlength : new.length = old.length)
    {source : StoredRow} {next : StoredTable}
    (h : t.insertRow none (t.spread new (old.map (cellAt source.cells))) = .ok next) :
    ∃ row lastId, t.Receives new old source row ∧ (∀ r ∈ t.rows, row.id ≠ r.id) ∧
      next = { t with rows := place row t.rows, lastId } := by
  obtain ⟨id, lastId, hid, hfresh, rfl⟩ := insertRow_eq_ok h
  refine ⟨_, lastId, ?_, hfresh, rfl⟩
  have hwidth : (t.stored (t.spread new (old.map (cellAt source.cells)))).length
      = t.columns.length := by
    rw [stored, List.length_zipWith, spread, List.length_mapIdx, Nat.min_self]
  constructor
  case length =>
    unfold numbered
    cases t.idColumn with
    | none => exact hwidth
    | some i => exact List.length_set.trans hwidth
  case copied =>
    intro i j k column hi hj hk hne
    exact getElem?_numbered hk (getElem?_spread_of_mem hnew hlength hi hj hk) hne
  case filled =>
    intro k column hnone hk hne
    exact getElem?_numbered hk (getElem?_spread_of_not_mem _ hk hnone hne) hne
  case numbered =>
    intro k hcolumn hk
    unfold numbered
    rw [hcolumn]
    exact List.getElem?_set_self (hwidth.symm ▸ hk)
  case number =>
    intro i j k hi hj hcolumn hk
    have hcell : cellAt (t.spread new (old.map (cellAt source.cells))) k
        = cellAt source.cells j := by
      rw [cellAt, getElem?_spread_of_mem hnew hlength hi hj (List.getElem?_eq_getElem hk)]
      rfl
    rw [hcolumn] at hid
    have hown : t.idOf (cellAt (t.spread new (old.map (cellAt source.cells))) k) = .ok id := hid
    rw [hcell] at hown
    exact idOf_eq_ok hown

/-! ## All rows -/

/-- The table after rows have been copied into it one after another. -/
def copied (t : StoredTable) (new old : List Nat) (rows : List StoredRow) :
    Except Fault StoredTable :=
  (rows.map fun r => old.map (cellAt r.cells)).foldlM
    (fun t given => t.insertRow none (t.spread new given)) t

/-- They are all there in the end, in the order of their numbers. -/
theorem copied_eq_ok (hnew : new.Nodup) (hlength : new.length = old.length)
    {rows : List StoredRow} {filled : StoredTable} (h : t.copied new old rows = .ok filled) :
    ∃ made, List.Forall₂ (t.Receives new old) rows made ∧ filled.rows.Perm (t.rows ++ made) ∧
      (t.rows.Pairwise (fun r r' => r.id < r'.id) →
        filled.rows.Pairwise fun r r' => r.id < r'.id) ∧
      filled = { t with rows := filled.rows, lastId := filled.lastId } := by
  induction rows generalizing t with
  | nil =>
      cases h
      exact ⟨[], .nil, .of_eq (List.append_nil _).symm, id, rfl⟩
  | cons r rows ih =>
      rw [copied, List.map_cons, List.foldlM_cons] at h
      obtain ⟨next, hnext, hrest⟩ := bind_eq_ok_iff.mp h
      obtain ⟨row, lastId, hreceives, hfresh, rfl⟩ := receives_of_insertRow hnew hlength hnext
      obtain ⟨made, hmade, hperm, hordered, hfilled⟩ := ih hrest
      refine ⟨row :: made, .cons hreceives (hmade.imp fun _ _ h =>
        ⟨h.length, h.copied, h.filled, h.numbered, h.number⟩), ?_, fun hrows => ?_, hfilled⟩
      · have hplaced := (perm_place row t.rows).append_right made
        exact (hperm.trans hplaced).trans List.perm_middle.symm
      · exact hordered (pairwise_place hrows hfresh)

end StoredTable

/-! ## Copying, dropping, renaming -/

namespace Content

variable {c next : Content} {t : StoredTable} {name other : String}

section

variable {source target : StoredTable} {table temp : String} {newColumns oldColumns : List String}
  {new old : List Nat}

/-- A copy adds a row for each row of one table to those of the other. -/
theorem copyRows_eq (hsource : c.table table = .ok source) (htarget : c.table temp = .ok target)
    (hnew : newColumns.mapM target.position = .ok new)
    (hold : oldColumns.mapM source.position = .ok old)
    (hlength : newColumns.length = oldColumns.length) (hfilled : newColumns ≠ []) :
    c.copyRows table temp newColumns oldColumns
      = (target.copied new old source.rows).map c.withTable := by
  have hpositions : target.positions newColumns = .ok new :=
    (if_neg (mt List.isEmpty_iff.mp hfilled)).trans hnew
  have hnames : oldColumns ≠ [] := by
    rintro rfl
    exact hfilled (List.length_eq_zero_iff.mp hlength)
  have hcount : ¬ oldColumns.length ≠ new.length := by
    rw [← (mapM_eq_ok_iff.mp hnew).length_eq, hlength]
    exact fun h => h rfl
  unfold copyRows
  simp only [htarget, hpositions, select_columns hsource hold hnames, bind, Except.bind,
    if_neg hcount]
  unfold StoredTable.copied
  cases (source.rows.map fun r => old.map (cellAt r.cells)).foldlM
    (fun t given => StoredTable.insertRow t none (t.spread new given)) target <;> rfl

/-- One that succeeds has named columns of both tables. -/
theorem copyRows_eq_ok (hsource : c.table? table = some source)
    (htarget : c.table? temp = some target) (hnew : newColumns.mapM target.position = .ok new)
    (hold : oldColumns.mapM source.position = .ok old)
    (hlength : newColumns.length = oldColumns.length) (hdistinct : new.Nodup)
    (h : c.copyRows table temp newColumns oldColumns = .ok next) :
    ∃ made filled, List.Forall₂ (target.Receives new old) source.rows made ∧
      filled.rows.Perm (target.rows ++ made) ∧
      (target.rows.Pairwise (fun r r' => r.id < r'.id) →
        filled.rows.Pairwise fun r r' => r.id < r'.id) ∧
      filled = { target with rows := filled.rows, lastId := filled.lastId } ∧
      next = c.withTable filled := by
  have hfound : c.table table = .ok source ∧ c.table temp = .ok target ∧ newColumns ≠ [] := by
    unfold copyRows at h
    obtain ⟨t, ht, h⟩ := bind_eq_ok_iff.mp h
    cases htarget.symm.trans (table_eq_ok_iff.mp ht).2
    obtain ⟨positions, hpositions, h⟩ := bind_eq_ok_iff.mp h
    obtain ⟨answer, hanswer, -⟩ := bind_eq_ok_iff.mp h
    obtain ⟨_, hplan, -⟩ := bind_eq_ok_iff.mp hanswer
    unfold selectPlan at hplan
    obtain ⟨s, hs, -⟩ := bind_eq_ok_iff.mp hplan
    cases hsource.symm.trans (table_eq_ok_iff.mp hs).2
    refine ⟨hs, ht, ?_⟩
    rintro rfl
    cases hpositions
  obtain ⟨hs, ht, hfilled⟩ := hfound
  have hlengths : new.length = old.length := by
    rw [← (mapM_eq_ok_iff.mp hnew).length_eq, ← (mapM_eq_ok_iff.mp hold).length_eq, hlength]
  rw [copyRows_eq hs ht hnew hold hlength hfilled] at h
  obtain ⟨filled, hfilled, rfl⟩ := map_eq_ok_iff.mp h
  obtain ⟨made, hmade, hperm, hordered, hlayout⟩ :=
    StoredTable.copied_eq_ok hdistinct hlengths hfilled
  exact ⟨made, filled, hmade, hperm, hordered, hlayout, rfl⟩

end

/-- A table that is dropped is gone, and the others stay. -/
theorem drop_eq_ok (h : c.drop name = .ok next) :
    next.userVersion = c.userVersion ∧ ∀ other, next.table? other
      = if sameName name other then none else c.table? other := by
  unfold drop at h
  obtain ⟨_, -, h⟩ := bind_eq_ok_iff.mp h
  cases h
  refine ⟨rfl, fun other => ?_⟩
  show (c.tables.filter fun t => !sameName t.name name).find? (fun t => sameName t.name other) = _
  rw [List.find?_filter]
  by_cases hsame : sameName name other = true
  · rw [if_pos hsame]
    refine List.find?_eq_none.mpr fun t _ => ?_
    rw [sameName_congr_right hsame]
    cases sameName t.name other <;> simp
  · rw [if_neg hsame]
    refine List.find?_congr fun t _ => ?_
    by_cases hother : sameName t.name other = true
    · have hne : sameName t.name name = false := by
        rw [Bool.eq_false_iff]
        intro hname
        exact hsame ((sameName_congr_left hname other).symm.trans hother)
      simp [hother, hne]
    · simp [hother]

/-- A table with another name, if it has the one that goes. -/
def renamed (old new : String) (t : StoredTable) : StoredTable :=
  if sameName t.name old then { t with name := new } else t

theorem sameName_renamed (old new : String) (t : StoredTable) (other : String) :
    sameName (renamed old new t).name other
      = if sameName t.name old then sameName new other else sameName t.name other := by
  unfold renamed
  split <;> rfl

section

variable {tables : List StoredTable} {old new : String}

/-- The table that had the old name is found under the new one, which no other had. -/
theorem find?_renamed_new (hfree : ∀ t ∈ tables, ¬ sameName t.name new = true)
    (hnew : sameName new other = true) :
    (tables.map (renamed old new)).find? (fun t => sameName t.name other)
      = (tables.find? fun t => sameName t.name old).map (renamed old new) := by
  rw [List.find?_map]
  congr 1
  refine List.find?_congr fun t ht => (sameName_renamed old new t other).trans ?_
  rw [hnew, ← sameName_congr_right hnew t.name, Bool.eq_false_iff.mpr (hfree t ht)]
  cases sameName t.name old <;> rfl

/-- There is none under the old name. -/
theorem find?_renamed_old (hnew : sameName new other = false) (hold : sameName old other = true) :
    (tables.map (renamed old new)).find? (fun t => sameName t.name other) = none := by
  refine List.find?_eq_none.mpr fun t ht => ?_
  obtain ⟨u, -, rfl⟩ := List.mem_map.mp ht
  rw [sameName_renamed, hnew, ← sameName_congr_right hold u.name]
  cases sameName u.name old <;> decide

/-- The others are found as before. -/
theorem find?_renamed_other (hnew : sameName new other = false)
    (hold : sameName old other = false) :
    (tables.map (renamed old new)).find? (fun t => sameName t.name other)
      = tables.find? fun t => sameName t.name other := by
  have hne {t : StoredTable} (ht : sameName t.name other = true) : sameName t.name old = false := by
    rw [Bool.eq_false_iff]
    intro hsame
    rw [← sameName_congr_left hsame, ht] at hold
    cases hold
  have hfind : tables.find? ((fun t => sameName t.name other) ∘ renamed old new)
      = tables.find? fun t => sameName t.name other := by
    refine List.find?_congr fun t _ => (sameName_renamed old new t other).trans ?_
    cases ht : sameName t.name other with
    | true => rw [hne ht, if_neg Bool.false_ne_true]
    | false => rw [hnew, ite_self]
  rw [List.find?_map, hfind]
  cases hfound : tables.find? fun t => sameName t.name other with
  | none => rfl
  | some t =>
      have ht := hne (List.find?_some (p := fun t : StoredTable => sameName t.name other) hfound)
      rw [Option.map_some, renamed, ht, if_neg Bool.false_ne_true]

end

/-- A table that is given a new name is found under that and no longer under its old one, and the
others stay. -/
theorem rename_eq_ok {old new : String} (h : c.rename old new = .ok next) :
    ∃ t, c.table? old = some t ∧ c.table? new = none ∧ next.userVersion = c.userVersion ∧
      ∀ other, next.table? other = if sameName new other then some { t with name := new }
        else if sameName old other then none else c.table? other := by
  unfold rename at h
  obtain ⟨_, -, h⟩ := bind_eq_ok_iff.mp h
  obtain ⟨t, ht, h⟩ := bind_eq_ok_iff.mp h
  have htable := (table_eq_ok_iff.mp ht).2
  have htname := sameName_of_table? htable
  split at h
  · cases h
  · rename_i hfree
    cases h
    have hnone : c.table? new = none := by
      cases hnew : c.table? new with
      | none => rfl
      | some t' => simp [hnew] at hfree
    refine ⟨t, htable, hnone, rfl, fun other => ?_⟩
    have hrenamed : (fun u : StoredTable => if sameName u.name t.name then { u with name := new }
        else u) = renamed old new := by
      funext u
      rw [sameName_congr_right htname u.name]
      rfl
    show (c.tables.map _).find? (fun u : StoredTable => sameName u.name other) = _
    rw [hrenamed]
    cases hnew : sameName new other with
    | true =>
        have hfound : c.tables.find? (fun u => sameName u.name old) = some t := htable
        rw [find?_renamed_new (List.find?_eq_none.mp hnone) hnew, hfound, Option.map_some, renamed,
          if_pos htname]
        rfl
    | false =>
        cases hold : sameName old other with
        | true => exact find?_renamed_old hnew hold
        | false => exact find?_renamed_other hnew hold

/-! ## The three statements -/

/-- The table has the layout of the other one, which is gone, and a row for each of its own rows, in
the order of their new numbers.  The other tables and the version are as they were. -/
structure Rebuilds (c : Content) (table temp : String) (source target : StoredTable)
    (new old : List Nat) (next : Content) : Prop where
  rebuilt : ∃ made rows lastId, List.Forall₂ (target.Receives new old) source.rows made ∧
    rows.Perm made ∧ rows.length = source.rows.length ∧
    rows.Pairwise (fun r r' => r.id < r'.id) ∧
    next.table? table = some { target with name := table, rows, lastId }
  gone : next.table? temp = none
  others : ∀ other, sameName table other = false → sameName temp other = false →
    next.table? other = c.table? other
  version : next.userVersion = c.userVersion

/-- So it is when its rows have been copied into the other table, it has been dropped and the other
one has got its name. -/
theorem rebuilds_of_run {copied dropped : Content} {table temp : String}
    {source target : StoredTable} {newColumns oldColumns : List String} {new old : List Nat}
    (hsource : c.table? table = some source) (htarget : c.table? temp = some target)
    (hempty : target.rows = []) (hne : sameName table temp = false)
    (hnew : newColumns.mapM target.position = .ok new)
    (hold : oldColumns.mapM source.position = .ok old)
    (hlength : newColumns.length = oldColumns.length) (hdistinct : new.Nodup)
    (hcopy : c.copyRows table temp newColumns oldColumns = .ok copied)
    (hdrop : copied.drop table = .ok dropped) (hrename : dropped.rename temp table = .ok next) :
    c.Rebuilds table temp source target new old next := by
  obtain ⟨made, filled, hmade, hperm, hordered, hlayout, rfl⟩ :=
    copyRows_eq_ok hsource htarget hnew hold hlength hdistinct hcopy
  obtain ⟨hversion, hdropped⟩ := drop_eq_ok hdrop
  obtain ⟨moved, hmoved, -, hversion', hrenamed⟩ := rename_eq_ok hrename
  have hsame : filled.name = target.name := by rw [hlayout]
  have hname : sameName filled.name temp = true := hsame ▸ sameName_of_table? htarget
  have hfilled : (c.withTable filled).table? temp = some filled :=
    table?_withTable hname (htarget ▸ rfl)
  have hself (name : String) : sameName name name = true := sameName_iff.mpr rfl
  rw [hdropped, hne, if_neg Bool.false_ne_true, hfilled] at hmoved
  cases hmoved
  rw [hempty, List.nil_append] at hperm
  rw [hempty] at hordered
  constructor
  case rebuilt =>
    refine ⟨made, filled.rows, filled.lastId, hmade, hperm,
      hperm.length_eq.trans hmade.length_eq.symm, hordered .nil, ?_⟩
    rw [hrenamed, if_pos (hself table), hlayout]
  case gone => rw [hrenamed, hne, if_neg Bool.false_ne_true, if_pos (hself temp)]
  case others =>
    intro other htable htemp
    rw [hrenamed, htable, htemp, if_neg Bool.false_ne_true, if_neg Bool.false_ne_true, hdropped,
      htable, if_neg Bool.false_ne_true]
    exact table?_withTable_of_ne ((sameName_congr_left hname other).trans htemp)
  case version => exact hversion'.trans hversion

end Content

end SqlStore
