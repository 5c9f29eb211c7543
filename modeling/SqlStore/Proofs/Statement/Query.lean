/-
# The redacted texts of queries

Clauses follow one another, each of them plain or with the literals of its values, up to the
semicolon that ends the query.

* `plain_orderClause`, `plain_limitClause` : clauses without values;
* `Query.redacts_toSql` : a query and its redaction, if the query compiles.
-/
import SqlStore.Proofs.Statement.Operand

namespace SqlStore

/-! ## Lists of names -/

/-- Names with commas between them. -/
theorem plain_names {names : List String} (h : ∀ name ∈ names, IsWord name) (i : Nat) :
    Plain i i (", ".intercalate names).toList := by
  have hsep : Plain i i ", ".toList := rfl
  exact .intercalate hsep fun name hname => (h name hname).plain i

/-! ## Queries -/

/-- A column after its table. -/
theorem plain_qualified {table column : String} (htable : IsWord table) (hcolumn : IsWord column) :
    Plain 0 0 (table ++ "." ++ column).toList := by
  have hpoint : Plain 0 0 ".".toList := by decide
  exact ((htable.plain 0).followedBy hpoint).followedBy (hcolumn.plain 0)

/-- The `ORDER BY` clause. -/
theorem plain_orderClause {ascending descending : List String}
    (hascending : ∀ s ∈ ascending, Plain 0 0 s.toList)
    (hdescending : ∀ s ∈ descending, Plain 0 0 s.toList) :
    Plain 0 0 (orderClause ascending descending).toList := by
  have hterms : ∀ s ∈ ascending.map (· ++ " ASC") ++ descending.map (· ++ " DESC"),
      Plain 0 0 s.toList := by
    have hasc : Plain 0 0 " ASC".toList := by decide
    have hdesc : Plain 0 0 " DESC".toList := by decide
    intro s hs
    rcases List.mem_append.mp hs with hs | hs
    · obtain ⟨t, ht, rfl⟩ := List.mem_map.mp hs
      exact (hascending t ht).followedBy hasc
    · obtain ⟨t, ht, rfl⟩ := List.mem_map.mp hs
      exact (hdescending t ht).followedBy hdesc
  unfold orderClause
  split
  · rfl
  · have horder : Plain 0 0 " ORDER BY ".toList := by decide
    exact horder.followedBy (.intercalate (by decide) hterms)

/-- The `LIMIT` clause. -/
theorem plain_limitClause (limit : Option UInt64) : Plain 0 0 (limitClause limit).toList := by
  cases limit with
  | none => rfl
  | some count =>
      have hlimit : Plain 0 0 " LIMIT ".toList := by decide
      show Plain 0 0 (" LIMIT " ++ toString count.toNat).toList
      exact hlimit.followedBy ((digits_toString count.toNat).plain 0)

namespace Select

/-- The columns of a selection. -/
theorem plain_selection {selection : Selection} (h : ∀ name ∈ selection.names, IsWord name) :
    Plain 0 0 selection.toSql.toList := by
  cases selection with
  | all => exact (by decide : Plain 0 0 "*".toList)
  | columns names => exact plain_names h 0

theorem redacts_toSql {s : Select} (hnamed : ∀ name ∈ s.names, IsWord name) :
    Alike RedactsStatement s.toSql s.redact.toSql := by
  simp only [names, List.forall_mem_append, List.forall_mem_cons] at hnamed
  obtain ⟨⟨⟨⟨htable, hselection⟩, hconditions⟩, hascending⟩, hdescending⟩ := hnamed
  have hhead : Plain 0 0 ("SELECT " ++ s.selection.toSql ++ " FROM " ++ s.table).toList := by
    have hselect : Plain 0 0 "SELECT ".toList := by decide
    have hfrom : Plain 0 0 " FROM ".toList := by decide
    have hcolumns := hselect.followedBy (plain_selection hselection)
    exact (hcolumns.followedBy hfrom).followedBy (htable.plain 0)
  have horder : Plain 0 0 (orderClause s.filter.ascending s.filter.descending).toList :=
    plain_orderClause (fun name hname => (hascending name hname).plain 0)
      fun name hname => (hdescending name hname).plain 0
  -- The condition is the one part with literals; what stands before and behind it is plain.
  refine (redacts_whereClause hconditions).bind fun c c' hclause => ?_
  obtain ⟨h, hc, hc'⟩ := hclause
  refine .ok (Redacts.statement ?_)
  exact ((hhead.redacts.append h hc hc').append_plain horder).append_plain
    (plain_limitClause s.filter.limit)

end Select

namespace Update

/-- One assignment. -/
theorem redacts_assignment {a : Assignment} (h : IsWord a.column) :
    Redacts 0 0 a.toSql a.redact.toSql := by
  have hequal : Plain 0 0 " = ".toList := by decide
  refine .plain_append (j := 0) ?_ (Value.redacts_literal a.value)
  exact (h.plain 0).followedBy hequal

theorem redacts_toSql {u : Update} (hnamed : ∀ name ∈ u.names, IsWord name) :
    Alike RedactsStatement u.toSql u.redact.toSql := by
  simp only [names, List.forall_mem_append, List.forall_mem_cons] at hnamed
  obtain ⟨⟨htable, hcolumns⟩, hconditions⟩ := hnamed
  have hhead : Plain 0 0 ("UPDATE " ++ u.table ++ " SET ").toList := by
    have hupdate : Plain 0 0 "UPDATE ".toList := by decide
    have hset : Plain 0 0 " SET ".toList := by decide
    exact (hupdate.followedBy (htable.plain 0)).followedBy hset
  have hassignments : Redacts 0 0 (", ".intercalate (u.replace.map Assignment.toSql))
      (", ".intercalate (u.redact.replace.map Assignment.toSql)) := by
    have hsep : Plain 0 0 ", ".toList := by decide
    rw [redact, List.map_map]
    exact .intercalate_map hsep (by decide) fun a ha =>
      redacts_assignment (hcolumns a.column (List.mem_map_of_mem ha))
  have hempty : u.redact.replace.isEmpty = u.replace.isEmpty := List.isEmpty_map
  unfold toSql
  rw [hempty]
  -- Without assignments both fail, before either condition is compiled.
  by_cases hnone : u.replace.isEmpty = true
  · rw [if_pos hnone, if_pos hnone]
    exact .error _
  · rw [if_neg hnone, if_neg hnone]
    refine (redacts_whereClause hconditions).bind fun c c' hclause => ?_
    obtain ⟨h, hc, hc'⟩ := hclause
    exact .ok ((Redacts.plain_append hhead hassignments).append h hc hc').statement

end Update

theorem Delete.redacts_toSql {d : Delete} (hnamed : ∀ name ∈ d.names, IsWord name) :
    Alike RedactsStatement d.toSql d.redact.toSql := by
  obtain ⟨htable, hconditions⟩ := List.forall_mem_cons.mp hnamed
  have hhead : Plain 0 0 ("DELETE FROM " ++ d.table).toList := by
    have hdelete : Plain 0 0 "DELETE FROM ".toList := by decide
    exact hdelete.followedBy (htable.plain 0)
  refine (redacts_whereClause hconditions).bind fun c c' hclause => ?_
  obtain ⟨h, hc, hc'⟩ := hclause
  exact .ok (hhead.redacts.append h hc hc').statement

namespace Join

/-- The columns wanted from one table. -/
theorem plain_qualifiedSelection {table : String} {selection : Selection} (htable : IsWord table)
    (h : ∀ name ∈ selection.names, IsWord name) :
    ∀ column ∈ selection.qualified table, Plain 0 0 column.toList := by
  cases selection with
  | all =>
      have hall : Plain 0 0 ".*".toList := by decide
      refine List.forall_mem_singleton.mpr ?_
      exact (htable.plain 0).followedBy hall
  | columns names =>
      intro column hcolumn
      obtain ⟨name, hname, rfl⟩ := List.mem_map.mp hcolumn
      exact plain_qualified htable (h name hname)

/-- The text of one joined table. -/
theorem plain_joinOn {base : String} {on : JoinOn} (hbase : IsWord base) (htable : IsWord on.table)
    (hleft : IsWord on.left) (hright : IsWord on.right) : Plain 0 0 (on.toSql base).toList := by
  have hkeyword : Plain 0 0 on.kind.keyword.toList := by cases on.kind <;> decide
  have hjoin : Plain 0 0 " JOIN ".toList := by decide
  have hon : Plain 0 0 " ON ".toList := by decide
  have hequal : Plain 0 0 " = ".toList := by decide
  have hpoint : Plain 0 0 ".".toList := by decide
  have htables := ((hkeyword.followedBy hjoin).followedBy (htable.plain 0)).followedBy hon
  have hfirst := ((htables.followedBy (hbase.plain 0)).followedBy hpoint).followedBy (hleft.plain 0)
  have hsecond := ((hfirst.followedBy hequal).followedBy (htable.plain 0)).followedBy hpoint
  exact hsecond.followedBy (hright.plain 0)

theorem redacts_toSql {j : Join} (hnamed : ∀ name ∈ j.names, IsWord name) :
    Alike RedactsStatement j.toSql j.redact.toSql := by
  simp only [names, List.forall_mem_append, List.forall_mem_cons, List.forall_mem_flatMap] at hnamed
  obtain ⟨⟨⟨⟨hbase, hselections⟩, hjoins⟩, hconditions⟩, hascending, hdescending⟩ := hnamed
  have hcolumns : ∀ column ∈ j.selections.flatMap fun s => s.selection.qualified s.table,
      Plain 0 0 column.toList := by
    rw [List.forall_mem_flatMap]
    intro s hs
    obtain ⟨htable, hnames⟩ := hselections s hs
    exact plain_qualifiedSelection htable hnames
  have hon : Plain 0 0 (String.join (j.joins.map fun on => " " ++ on.toSql j.base)).toList := by
    refine .join fun text htext => ?_
    obtain ⟨on, hmem, rfl⟩ := List.mem_map.mp htext
    obtain ⟨htable, hleft, hright, -⟩ := hjoins on hmem
    have hblank : Plain 0 0 " ".toList := by decide
    exact hblank.followedBy (plain_joinOn hbase htable hleft hright)
  have hhead : Plain 0 0 ("SELECT " ++ ", ".intercalate
      (j.selections.flatMap fun s => s.selection.qualified s.table) ++ " FROM " ++ j.base ++
      String.join (j.joins.map fun on => " " ++ on.toSql j.base)).toList := by
    have hselect : Plain 0 0 "SELECT ".toList := by decide
    have hfrom : Plain 0 0 " FROM ".toList := by decide
    have hlist : Plain 0 0 (", ".intercalate
        (j.selections.flatMap fun s => s.selection.qualified s.table)).toList :=
      .intercalate (by decide) hcolumns
    exact (((hselect.followedBy hlist).followedBy hfrom).followedBy (hbase.plain 0)).followedBy hon
  have horder : Plain 0 0 (orderClause (j.ascending.map ColumnInTable.toSql)
      (j.descending.map ColumnInTable.toSql)).toList := by
    refine plain_orderClause ?_ ?_
    · intro text htext
      obtain ⟨c, hc, rfl⟩ := List.mem_map.mp htext
      obtain ⟨htable, hcolumn, -⟩ := hascending c hc
      exact plain_qualified htable hcolumn
    · intro text htext
      obtain ⟨c, hc, rfl⟩ := List.mem_map.mp htext
      obtain ⟨htable, hcolumn, -⟩ := hdescending c hc
      exact plain_qualified htable hcolumn
  refine (redacts_whereClause hconditions).bind fun c c' hclause => ?_
  obtain ⟨h, hc, hc'⟩ := hclause
  refine .ok (Redacts.statement ?_)
  exact ((hhead.redacts.append h hc hc').append_plain horder).append_plain
    (plain_limitClause j.limit)

end Join

/-- Every query on names. -/
theorem Query.redacts_toSql {q : Query} (hnamed : ∀ name ∈ q.names, IsWord name) :
    Alike RedactsStatement q.toSql q.redact.toSql := by
  cases q with
  | select s => exact Select.redacts_toSql hnamed
  | update u => exact Update.redacts_toSql hnamed
  | delete d => exact Delete.redacts_toSql hnamed
  | join j => exact Join.redacts_toSql hnamed

end SqlStore
