/-
# The order of rows

An ordering leaves open how rows come that agree on all its columns, and a query without one leaves
everything open.  The library takes such rows in the order of the source; a database may take them
in another order, and under a limit in another one than without.  A reading is any way to answer
queries, and it is faithful if it takes the rows of every query in an order that the query allows.

* `Query.withLimit`, `Connection.read_withLimit` : an answer is cut at its limit last;
* `Source.Allows`, `Source.allows_arranged` : orders that a select allows;
* `Reading.Faithful`, `Connection.faithful_read` : faithful readings, of which the library's is one;
* `Connection.Determines`, `Reading.Faithful.eq_read` : an ordering that tells all rows apart leaves
  one answer;
* `Reading.SameOrder` : a reading that takes rows in one order under two limits.
-/
import SqlStore.Proofs.Result
import SqlStore.Store.Connection

namespace SqlStore

variable {α β : Type}

/-! ## Limits -/

namespace Query

/-- The limit of a query that shows rows. -/
def limit : Query → Option UInt64
  | select s => s.filter.limit
  | join j => j.limit
  | update _ | delete _ => none

/-- The query with a limit in place of the one that it has. -/
def withLimit (limit : Option UInt64) : Query → Query
  | select s => select { s with filter := { s.filter with limit } }
  | join j => join { j with limit }
  | q => q

/-- The limit that is there changes nothing. -/
theorem withLimit_limit (q : Query) : q.withLimit q.limit = q := by
  cases q <;> rfl

/-- A limit has no part in whether a query compiles. -/
theorem toSql_withLimit (q : Query) (limit : Option UInt64) :
    (q.withLimit limit).toSql.map (fun _ => ()) = q.toSql.map fun _ => () := by
  cases q with
  | select s =>
      show (Select.toSql _).map _ = (Select.toSql s).map _
      unfold Select.toSql
      cases whereClause s.filter.conditions <;> rfl
  | join j =>
      show (Join.toSql _).map _ = (Join.toSql j).map _
      unfold Join.toSql
      cases whereClause j.conditions <;> rfl
  | update u => rfl
  | delete d => rfl

end Query

/-- The rows of an answer up to a limit. -/
def ResultSet.upTo (limit : Option UInt64) (r : ResultSet) : Except Fault ResultSet :=
  return { r with rows := ← limited limit r.rows }

/-- A limit cuts the list, whatever is made of its elements. -/
theorem limited_map (limit : Option UInt64) (f : α → β) (as : List α) :
    limited limit (as.map f) = (limited limit as).map (List.map f) := by
  cases limit with
  | none => rfl
  | some n =>
      unfold limited
      by_cases h : n < 0x8000000000000000
      · simp only [h, if_true, Except.map, List.map_take]
      · simp only [h, if_false, Except.map]

/-- What a select shows of the rows that it keeps, before it is cut. -/
def Source.whole (s : Source) (p : Projection) (rows : List (List Cell)) : ResultSet where
  names := p.outputs.map s.outputName
  rows :=
    if p.outputs.contains .count then [Source.showRow p.outputs rows.length (rows.headD [])]
    else rows.map (Source.showRow p.outputs 0)

/-- It is cut at the limit last. -/
theorem Source.present_eq (s : Source) (p : Projection) (rows : List (List Cell)) :
    s.present p rows = (s.whole p rows).upTo p.limit := rfl

/-! ## Plans -/

/-- What asks the same but for the limit. -/
def Projection.withLimit (limit : Option UInt64) (p : Projection) : Projection := { p with limit }

namespace Content

variable (c : Content)

theorem selectPlan_limit (s : Select) (limit : Option UInt64) :
    c.selectPlan { s with filter := { s.filter with limit } }
      = Prod.map id (Projection.withLimit limit) <$> c.selectPlan s := by
  unfold selectPlan
  simp only [map_bind, map_pure]
  rfl

theorem joinPlan_limit (j : Join) (limit : Option UInt64) :
    c.joinPlan { j with limit } = Prod.map id (Projection.withLimit limit) <$> c.joinPlan j := by
  unfold joinPlan
  simp only [map_bind]
  refine bind_congr fun source => bind_congr fun outputs => ?_
  split
  · rfl
  · simp only [map_bind, map_pure]
    rfl

end Content

namespace Connection

/-- What a query takes its rows from, and what it asks of them. -/
def plan (c : Connection) : Query → Except Fault (Source × Projection)
  | .select s => c.content.selectPlan s
  | .join j => c.content.joinPlan j
  | _ => .error .malformed

/-- A limit is no part of a plan but its own. -/
theorem plan_withLimit (c : Connection) (q : Query) (limit : Option UInt64) :
    c.plan (q.withLimit limit) = Prod.map id (Projection.withLimit limit) <$> c.plan q := by
  cases q with
  | select s => exact c.content.selectPlan_limit s limit
  | join j => exact c.content.joinPlan_limit j limit
  | update u => rfl
  | delete d => rfl

/-- An answer is that of a plan. -/
theorem read_eq_plan (c : Connection) (q : Query) :
    c.read q = c.plan q >>= fun plan => plan.1.answer plan.2 := by
  cases q <;> rfl

/-- An answer is cut at its limit last. -/
theorem read_withLimit (c : Connection) (q : Query) (limit : Option UInt64) :
    c.read (q.withLimit limit) = c.read (q.withLimit none) >>= ResultSet.upTo limit := by
  simp only [read_eq_plan, plan_withLimit]
  cases c.plan q with
  | error fault => rfl
  | ok plan => rfl

end Connection

/-! ## Orders that a query allows -/

/-- Cells are ordered totally. -/
instance : Std.TransCmp Cell.rank where
  eq_swap := by
    intro a b
    cases a <;> cases b <;> simp [Cell.rank, Cell.order, Cell.isNull] <;>
      exact Std.OrientedCmp.eq_swap
  isLE_trans := by
    intro a b c
    cases a <;> cases b <;> cases c <;> simp [Cell.rank, Cell.order, Cell.isNull] <;>
      exact Std.TransCmp.isLE_trans

/-- The order of two rows by one key. -/
def SortKey.order (key : SortKey) (a b : List Cell) : Ordering :=
  if key.ascending then (cellAt a key.column).rank (cellAt b key.column)
  else (cellAt b key.column).rank (cellAt a key.column)

instance (key : SortKey) : Std.TransCmp key.order where
  eq_swap := by
    intro a b
    have hrank (x y : Cell) : x.rank y = (y.rank x).swap := Std.OrientedCmp.eq_swap
    unfold SortKey.order
    cases key.ascending with
    | true => exact hrank _ _
    | false => exact hrank _ _
  isLE_trans := by
    intro a b c
    have hrank {x y z : Cell} (hxy : (x.rank y).isLE = true) (hyz : (y.rank z).isLE = true) :
        (x.rank z).isLE = true := Std.TransCmp.isLE_trans hxy hyz
    unfold SortKey.order
    cases key.ascending with
    | true => exact hrank
    | false => exact fun hab hbc => hrank hbc hab

/-- So are rows, by any keys. -/
instance (keys : List SortKey) : Std.TransCmp (orderRows keys) := by
  induction keys with
  | nil => exact { eq_swap := rfl, isLE_trans := fun _ _ => rfl }
  | cons key rest ih =>
      exact (inferInstance : Std.TransCmp (compareLex key.order (orderRows rest)))

/-- The rows that a select keeps, in an order that it allows.  Nothing orders the rows of a count,
which shows one row. -/
structure Source.Allows (s : Source) (p : Projection) (rows : List (List Cell)) : Prop where
  perm : rows.Perm (s.passing p.test)
  ordered : p.outputs.contains .count = false →
    rows.Pairwise fun a b => (orderRows p.ordering a b).isLE = true

/-- Rows sorted by keys are in the order of the keys. -/
theorem pairwise_mergeSort_orderRows (keys : List SortKey) (rows : List (List Cell)) :
    (rows.mergeSort fun a b => orderRows keys a b != .gt).Pairwise
      fun a b => (orderRows keys a b).isLE = true := by
  have hle (o : Ordering) : (o != .gt) = o.isLE := by
    cases o <;> rfl
  simp only [hle]
  apply List.pairwise_mergeSort
  · intro a b c hab hbc
    exact Std.TransCmp.isLE_trans hab hbc
  · intro a b
    have hswap : orderRows keys b a = (orderRows keys a b).swap := Std.OrientedCmp.eq_swap
    rw [hswap]
    cases orderRows keys a b <;> rfl

/-- The order of the library is one of them. -/
theorem Source.allows_arranged (s : Source) (p : Projection) : s.Allows p (s.arranged p) := by
  unfold arranged
  cases hcount : p.outputs.contains .count with
  | true =>
      refine ⟨List.Perm.refl _, fun h => ?_⟩
      rw [hcount] at h
      cases h
  | false => exact ⟨List.mergeSort_perm .., fun _ => pairwise_mergeSort_orderRows ..⟩

/-- An answer to a query, with its rows in an order that the query allows. -/
def Connection.Allows (c : Connection) (q : Query) (answer : ResultSet) : Prop :=
  ∃ source asked rows, c.plan q = .ok (source, asked) ∧ source.Allows asked rows ∧
    source.present asked rows = .ok answer

/-- The ordering of the query tells apart any two rows that pass its test, unless they are the same
in all columns. -/
def Connection.Determines (c : Connection) (q : Query) : Prop :=
  ∀ source asked, c.plan q = .ok (source, asked) →
    asked.outputs.contains .count = false ∧
      ∀ a ∈ source.passing asked.test, ∀ b ∈ source.passing asked.test,
        orderRows asked.ordering a b = .eq → a = b

/-- A limit leaves an ordering as it is. -/
theorem Connection.Determines.withLimit {c : Connection} {q : Query} (h : c.Determines q)
    (limit : Option UInt64) : c.Determines (q.withLimit limit) := by
  intro source asked hplan
  rw [plan_withLimit] at hplan
  obtain ⟨⟨source', asked'⟩, hplan', hpair⟩ := map_eq_ok_iff.mp hplan
  cases hpair
  exact h source' asked' hplan'

/-! ## Readings -/

/-- A way to answer queries. -/
abbrev Reading := Connection → Query → Except Fault ResultSet

namespace Reading

/-- The reading takes the rows of every query in an order that the query allows, and fails where the
library does. -/
def Faithful (read : Reading) : Prop :=
  ∀ (c : Connection) (q : Query), match c.plan q with
    | .ok (source, asked) =>
        ∃ rows, source.Allows asked rows ∧ read c q = source.present asked rows
    | .error fault => read c q = .error fault

/-- The reading takes the rows of a query in the same order under another limit. -/
def SameOrder (read : Reading) (c : Connection) (q : Query) (limit : Option UInt64) : Prop :=
  ∃ answer, read c q = answer >>= ResultSet.upTo q.limit ∧
    read c (q.withLimit limit) = answer >>= ResultSet.upTo limit

variable {read : Reading} {c : Connection} {q : Query}

/-- Where the ordering leaves no choice, the answer is that of the library. -/
theorem Faithful.eq_read (hread : read.Faithful) (h : c.Determines q) : read c q = c.read q := by
  have hfaithful := hread c q
  rw [Connection.read_eq_plan]
  cases hplan : c.plan q with
  | error fault =>
      rw [hplan] at hfaithful
      exact hfaithful
  | ok plan =>
      obtain ⟨source, asked⟩ := plan
      rw [hplan] at hfaithful
      obtain ⟨rows, hrows, hanswer⟩ := hfaithful
      obtain ⟨hcount, hties⟩ := h source asked hplan
      have harranged := source.allows_arranged asked
      -- Two orders of the same rows that both agree with the keys differ in the place of ties only.
      have hsame : rows = source.arranged asked := by
        refine List.Perm.eq_of_pairwise ?_ (hrows.ordered hcount) (harranged.ordered hcount)
          (hrows.perm.trans harranged.perm.symm)
        intro a b ha hb hab hba
        exact hties a (hrows.perm.mem_iff.mp ha) b (harranged.perm.mem_iff.mp hb)
          (Std.OrientedCmp.isLE_antisymm hab hba)
      rw [hanswer, hsame]
      rfl

end Reading

namespace Connection

/-- The library reads faithfully. -/
theorem faithful_read : Reading.Faithful read := by
  intro c q
  rw [read_eq_plan]
  cases c.plan q with
  | error fault => rfl
  | ok plan => exact ⟨_, plan.1.allows_arranged plan.2, rfl⟩

/-- It takes rows in one order under all limits. -/
theorem sameOrder_read (c : Connection) (q : Query) (limit : Option UInt64) :
    Reading.SameOrder read c q limit := by
  refine ⟨c.read (q.withLimit none), ?_, c.read_withLimit q limit⟩
  rw [← c.read_withLimit, q.withLimit_limit]

/-- So does every faithful reading, if the ordering leaves no choice. -/
theorem Determines.sameOrder {read : Reading} {c : Connection} {q : Query} (h : c.Determines q)
    (hread : read.Faithful) (limit : Option UInt64) : read.SameOrder c q limit := by
  obtain ⟨answer, hanswer, hlimited⟩ := c.sameOrder_read q limit
  refine ⟨answer, ?_, ?_⟩
  · rw [hread.eq_read h, hanswer]
  · rw [hread.eq_read (h.withLimit limit), hlimited]

end Connection

/-- Under a limit a faithful reading shows the first rows of some answer that the query allows
without its limit. -/
theorem Reading.Faithful.exists_upTo {read : Reading} {c : Connection} {q : Query}
    (hread : read.Faithful) {answer : ResultSet} (h : read c q = .ok answer)
    (limit : Option UInt64) :
    ∃ whole, c.Allows (q.withLimit none) whole ∧
      read c (q.withLimit limit) = whole.upTo limit := by
  have hfaithful := hread c (q.withLimit limit)
  rw [Connection.plan_withLimit] at hfaithful
  cases hplan : c.plan q with
  | error fault =>
      have herror := hread c q
      rw [hplan] at herror
      cases herror.symm.trans h
  | ok plan =>
      rw [hplan] at hfaithful
      obtain ⟨rows, hrows, hread⟩ := hfaithful
      refine ⟨plan.1.whole plan.2 rows, ⟨plan.1, plan.2.withLimit none, rows, ?_, ?_, rfl⟩,
        hread.trans (plan.1.present_eq _ rows)⟩
      · rw [Connection.plan_withLimit, hplan]
        rfl
      · exact ⟨hrows.perm, hrows.ordered⟩

end SqlStore
