/-
# Statements that leave the version alone

The version of the schema changes with the statement that sets it, and goes back with a transaction
that is rolled back.  Every other statement leaves the version, the connection and its transaction
as they are, whether it succeeds or not.

* `Yields` : what every result of a computation has in common;
* `Content.yields_run` : the version after one statement;
* `Connection.keeps_runScript` : the connection after a script.
-/
import SqlStore.Store.Connection

namespace SqlStore

/-! ## Results -/

/-- Every result has the property. -/
def Yields {ε α : Type} (P : α → Prop) (x : Except ε α) : Prop := ∀ a, x = .ok a → P a

namespace Yields

variable {ε α β : Type} {P : α → Prop} {Q : β → Prop}

theorem ok {a : α} (h : P a) : Yields P (.ok a : Except ε α) := by
  rintro _ ⟨⟩
  exact h

theorem error (e : ε) : Yields P (.error e : Except ε α) := by
  rintro _ ⟨⟩

theorem bind {x : Except ε β} {f : β → Except ε α} (h : ∀ b, Yields P (f b)) :
    Yields P (x >>= f) := by
  intro a ha
  cases x with
  | error e => cases ha
  | ok b => exact h b a ha

/-- Nothing comes after an error. -/
theorem throw_bind (e : ε) (f : β → Except ε α) :
    Yields P ((throw e : Except ε β) >>= f) := by
  rintro _ ⟨⟩

theorem ite {c : Prop} [Decidable c] {x y : Except ε α} (hx : Yields P x) (hy : Yields P y) :
    Yields P (if c then x else y) := by
  split
  · exact hx
  · exact hy

theorem map {x : Except ε β} (h : Yields Q x) {f : β → α} (hf : ∀ b, Q b → P (f b)) :
    Yields P (x.map f) := by
  intro a ha
  cases x with
  | error e => cases ha
  | ok b =>
      cases ha
      exact hf b (h b rfl)

end Yields

/-! ## One statement -/

namespace Content

/-- Two contents of one version. -/
def SameVersion (c next : Content) : Prop := next.userVersion = c.userVersion

variable (c : Content)

theorem sameVersion_withTable (t : StoredTable) : c.SameVersion (c.withTable t) := rfl

theorem yields_create (name : String) (columns : List ColumnDecl) :
    Yields c.SameVersion (c.create name columns) := by
  unfold create
  dsimp only
  refine .bind fun _ => .ite (.throw_bind _ _) (.bind fun _ => .ite (.throw_bind _ _) ?_)
  refine .ite (.ok rfl) (.ite (.throw_bind _ _) (.bind fun _ => .ok rfl))

theorem yields_createIndex (name table : String) (columns : List String) :
    Yields c.SameVersion (c.createIndex name table columns) := by
  unfold createIndex
  dsimp only
  refine .bind fun _ => .ite (.throw_bind _ _) (.bind fun _ => .bind fun t => ?_)
  exact .ite (.throw_bind _ _) (.ite (.ok rfl) (.bind fun _ => .ok rfl))

theorem yields_drop (name : String) : Yields c.SameVersion (c.drop name) := by
  unfold drop
  exact .bind fun _ => .ok rfl

theorem yields_rename (old new : String) : Yields c.SameVersion (c.rename old new) := by
  unfold rename
  dsimp only
  exact .bind fun _ => .bind fun _ => .ite (.throw_bind _ _) (.ok rfl)

theorem yields_addColumn (table : String) (column : ColumnDecl) :
    Yields c.SameVersion (c.addColumn table column) := by
  unfold addColumn
  dsimp only
  refine .bind fun _ => .bind fun t => .ite (.throw_bind _ _) (.ite (.throw_bind _ _) ?_)
  exact .ite (.throw_bind _ _) (.ok (c.sameVersion_withTable _))

theorem yields_copyRows (source target : String) (targetColumns sourceColumns : List String) :
    Yields c.SameVersion (c.copyRows source target targetColumns sourceColumns) := by
  unfold copyRows
  dsimp only
  refine .bind fun t => .bind fun positions => .bind fun answer => .ite (.throw_bind _ _) ?_
  exact .bind fun _ => .ok (c.sameVersion_withTable _)

theorem yields_insert (table : String) (columns : List String) (values : List (Option Value))
    (policy : ConflictPolicy) : Yields c.SameVersion (c.insert table columns values policy) := by
  unfold insert
  dsimp only
  refine .bind fun t => .bind fun positions => .bind fun given => .ite (.throw_bind _ _) ?_
  exact .bind fun _ => .ok (c.sameVersion_withTable _)

theorem yields_update (u : Update) : Yields (c.SameVersion ·.1) (c.update u) := by
  unfold update
  refine .bind fun t => .bind fun assignments => .bind fun test => .bind fun updated => ?_
  exact .ok (c.sameVersion_withTable _)

theorem yields_delete (d : Delete) : Yields (c.SameVersion ·.1) (c.delete d) := by
  unfold delete
  refine .bind fun t => .bind fun test => ?_
  exact .ok (c.sameVersion_withTable _)

/-- A statement that does not set the version leaves it. -/
theorem yields_run {s : Statement} (hs : ∀ version, s ≠ .setUserVersion version) :
    Yields (c.SameVersion ·.1) (c.run s) := by
  cases s with
  | query q =>
      cases q with
      | select s => exact Yields.map (Q := fun _ => True) (fun _ _ => trivial) fun _ _ => rfl
      | join j => exact Yields.map (Q := fun _ => True) (fun _ _ => trivial) fun _ _ => rfl
      | update u => exact c.yields_update u
      | delete d => exact c.yields_delete d
  | createTable name columns => exact (c.yields_create name columns).map fun _ h => h
  | createIndex name table columns =>
      exact (c.yields_createIndex name table columns).map fun _ h => h
  | dropTable name => exact (c.yields_drop name).map fun _ h => h
  | renameTable old new => exact (c.yields_rename old new).map fun _ h => h
  | addColumn table column => exact (c.yields_addColumn table column).map fun _ h => h
  | copyRows source target new old =>
      exact (c.yields_copyRows source target new old).map fun _ h => h
  | insert table columns values policy =>
      exact (c.yields_insert table columns values policy).map fun _ h => h
  | setUserVersion version => exact absurd rfl (hs version)
  | «begin» => exact .ok rfl
  | commit => exact .ok rfl
  | rollback => exact .ok rfl
  | unreadable text => exact .error _

/-- Where nothing may be written a statement does what it does elsewhere, or fails. -/
theorem yields_runReadOnly_of {c : Content} {s : Statement} {P : Content × Nat → Prop}
    (h : Yields P (c.run s)) : Yields P (c.runReadOnly s) := by
  unfold runReadOnly
  cases hrun : c.run s with
  | error fault => exact .error _
  | ok result => exact .ite (.error _) (.ok (h result hrun))

end Content

/-! ## Scripts -/

/-- Whether the statement is neither one of a transaction nor one that sets the version. -/
def Statement.isOrdinary : Statement → Bool
  | begin | commit | rollback | setUserVersion _ => false
  | _ => true

/-- Whether the statement begins or ends a transaction. -/
def Statement.isTransactional : Statement → Bool
  | begin | commit | rollback => true
  | _ => false

theorem Statement.isTransactional_of_isOrdinary (s : Statement) (h : s.isOrdinary = true) :
    s.isTransactional = false := by
  cases s <;> first | rfl | cases h

namespace Connection

/-- A statement outside of transactions works on the content and notes what an open transaction has
written. -/
theorem run_eq (c : Connection) {s : Statement} (hs : s.isTransactional = false) :
    c.run s = (if c.readOnly then c.content.runReadOnly s else c.content.run s).map fun result =>
      ({ c with
          content := result.1
          dirty := c.inTransaction &&
            (c.dirty || s.overwrites result.2 || result.1 != c.content) }, result.2) := by
  unfold run
  -- The first six cases are the statements of a transaction.
  split
  · cases hs
  · cases hs
  · cases hs
  · cases hs
  · cases hs
  · cases hs
  · rfl

/-- The same connection in the same transaction, with a content of the same version. -/
structure Keeps (c next : Connection) : Prop where
  readOnly : next.readOnly = c.readOnly
  saved : next.saved = c.saved
  version : next.content.userVersion = c.content.userVersion

/-- What one statement keeps. -/
theorem yields_run (c : Connection) {s : Statement} (hs : s.isOrdinary = true) :
    Yields (c.Keeps ·.1) (c.run s) := by
  have hversion : ∀ version, s ≠ .setUserVersion version := by
    rintro version rfl
    cases hs
  rw [c.run_eq (s.isTransactional_of_isOrdinary hs)]
  have hrun := c.content.yields_run hversion
  refine Yields.map (.ite (Content.yields_runReadOnly_of hrun) hrun) ?_
  rintro ⟨content, count⟩ h
  exact ⟨rfl, rfl, h⟩

/-- What a script keeps, also if one of its statements fails. -/
theorem keeps_runScript {script : Script} (hscript : ∀ s ∈ script, s.isOrdinary = true)
    (c : Connection) : c.Keeps (c.runScript script).1 := by
  induction script generalizing c with
  | nil => exact ⟨rfl, rfl, rfl⟩
  | cons s script ih =>
      obtain ⟨hs, hrest⟩ := List.forall_mem_cons.mp hscript
      unfold runScript
      cases hrun : c.run s with
      | error fault => exact ⟨rfl, rfl, rfl⟩
      | ok result =>
          have hfirst := c.yields_run hs result hrun
          have hnext := ih hrest result.1
          exact ⟨hnext.readOnly.trans hfirst.readOnly, hnext.saved.trans hfirst.saved,
            hnext.version.trans hfirst.version⟩

end Connection

end SqlStore
