/-
# Connections that programs reach

A connection takes note of writing only while a transaction is open.  That is so of every new
connection, and neither a statement nor a change of the journal mode makes it otherwise.  So it is
in the course of every program, at any depth of closures, and a connection that is in no
transaction is one that nothing has been written to since.  A closure stays on the file of the
connection that it has begun with.

* `Connection.Evolves.isTidy`, `Connection.Evolves.location_eq` : what becomes of a connection;
* `Database.IsTidy`, `Database.IsTidy.isAutocommit_iff` : a database with such a connection;
* `Request.isTidy_exec`, `Call.isTidy_exec` : requests and calls;
* `Program.isTidy_exec`, `Program.isTidy_of_mem_moments` : programs, and the course of a program;
* `Program.target_of_mem_moments` : closures stay where they are.
-/
import SqlStore.Proofs.Database.Nesting

namespace SqlStore

variable {α β : Type}

/-! ## Connections -/

namespace Connection

/-- A new connection is tidy. -/
theorem isTidy_inMemory : inMemory.IsTidy := by
  rintro ⟨⟩

/-- Every statement leaves a tidy connection. -/
theorem isTidy_run (c : Connection) (s : Statement) :
    Yields (fun result => result.1.IsTidy) (c.run s) := by
  unfold run
  split
  · exact .ok fun _ => rfl
  · exact .error _
  · exact .ok fun hdirty => by cases hdirty
  · exact .ok fun hdirty => by cases hdirty
  · exact .error _
  · exact .error _
  · refine Yields.map (Q := fun _ => True) (fun _ _ => trivial) ?_
    rintro ⟨content, count⟩ - hdirty
    exact (Bool.and_eq_true_iff.mp hdirty).1

/-- A change of the journal mode leaves it as tidy as it was. -/
theorem IsTidy.yields_setJournal {c : Connection} (hc : c.IsTidy) (mode : JournalMode) :
    Yields IsTidy (c.setJournal mode) := by
  unfold setJournal
  refine .ite (.ok hc) ?_
  split
  · refine .ok ?_
    split
    · exact hc
    · exact hc
  · exact .ite (.ok hc) (.ite (.error _) (.ite (.error _) (.ok hc)))

/-- Whatever becomes of a tidy connection is tidy. -/
theorem Evolves.isTidy {c next : Connection} (h : c.Evolves next) (hc : c.IsTidy) :
    next.IsTidy := by
  induction h with
  | refl => exact hc
  | tail _ hstep ih =>
      rcases hstep with ⟨s, count, hrun⟩ | ⟨mode, hjournal⟩
      · exact isTidy_run _ s _ hrun
      · exact ih.yields_setJournal mode _ hjournal

/-- A statement that changes the connection leaves it where it is. -/
theorem location_run (c : Connection) (s : Statement) :
    Yields (fun result => result.1.location = c.location ∧ result.1.readOnly = c.readOnly)
      (c.run s) := by
  unfold run
  split
  · exact .ok ⟨rfl, rfl⟩
  · exact .error _
  · exact .ok ⟨rfl, rfl⟩
  · exact .ok ⟨rfl, rfl⟩
  · exact .error _
  · exact .error _
  · exact Yields.map (Q := fun _ => True) (fun _ _ => trivial) fun _ _ => ⟨rfl, rfl⟩

/-- So does a change of the journal mode. -/
theorem location_setJournal (c : Connection) (mode : JournalMode) :
    Yields (fun next => next.location = c.location ∧ next.readOnly = c.readOnly)
      (c.setJournal mode) := by
  unfold setJournal
  refine .ite (.ok ⟨rfl, rfl⟩) ?_
  split
  · refine .ok ?_
    split <;> exact ⟨rfl, rfl⟩
  · exact .ite (.ok ⟨rfl, rfl⟩) (.ite (.error _) (.ite (.error _) (.ok ⟨rfl, rfl⟩)))

/-- The same connection is a connection to the same file, for reading or for both. -/
theorem Evolves.location_eq {c next : Connection} (h : c.Evolves next) :
    next.location = c.location ∧ next.readOnly = c.readOnly := by
  induction h with
  | refl => exact ⟨rfl, rfl⟩
  | tail _ hstep ih =>
      rcases hstep with ⟨s, count, hrun⟩ | ⟨mode, hjournal⟩
      · obtain ⟨hlocation, hreadOnly⟩ := location_run _ s _ hrun
        exact ⟨hlocation.trans ih.1, hreadOnly.trans ih.2⟩
      · obtain ⟨hlocation, hreadOnly⟩ := location_setJournal _ mode _ hjournal
        exact ⟨hlocation.trans ih.1, hreadOnly.trans ih.2⟩

end Connection

theorem Database.isTidy_attach (db : Database) (name : String) (readOnly : Bool) :
    (db.attach name readOnly).IsTidy := by
  rintro ⟨⟩

/-! ## Databases -/

/-- If a connection is open, it is tidy. -/
def Database.IsTidy (db : Database) : Prop := ∀ c, db.connection = some c → c.IsTidy

theorem Database.isTidy_empty : Database.empty.IsTidy := nofun

section

variable {db after : Database}

/-- It is the connection alone that counts. -/
theorem Database.IsTidy.of_eq (h : db.IsTidy) (hsame : after.connection = db.connection) :
    after.IsTidy := by
  intro c hopen
  exact h c (hsame ▸ hopen)

/-- The connection that is held stays tidy. -/
theorem Database.IsTidy.of_sameConnection (h : db.IsTidy) (hsame : db.SameConnection after) :
    after.IsTidy := by
  obtain ⟨c, next, hopen, hnext, hevolves⟩ := hsame
  intro c' hopen'
  cases hnext.symm.trans hopen'
  exact hevolves.isTidy (h c hopen)

/-- What keeps the connection, and leaves a database without one alone, leaves it tidy. -/
theorem Database.IsTidy.exec (h : db.IsTidy) {program : Db α} (hretains : Db.Retains True 0 program)
    (hnone : db.connection = none → (program.exec db).2 = db) : (program.exec db).2.IsTidy := by
  cases hopen : db.connection with
  | none =>
      rw [hnone hopen]
      exact h
  | some c =>
      have hheld : db.connection.isSome = true := Option.isSome_of_eq_some hopen
      exact h.of_sameConnection ((hretains db).same (Database.inUse_zero hheld))

/-- Nothing has been written to a tidy connection outside of transactions, so that no transaction is
all there is to autocommit. -/
theorem Database.IsTidy.isAutocommit_iff (h : db.IsTidy) :
    db.IsAutocommit ↔ ∀ c, db.connection = some c → c.inTransaction = false :=
  forall_congr' fun c => forall_congr' fun hopen => (h c hopen).isAutocommit_iff

/-- A request that is granted finds a new connection or none, and one that is refused the old
one. -/
theorem Request.isTidy_exec (r : Request) (h : db.IsTidy) : (r.run.exec db).2.IsTidy := by
  by_cases hfree : db.borrows = 0
  · rw [r.exec_run, if_pos hfree]
    cases r.obstacle? db with
    | some e => exact h
    | none =>
        cases r with
        | openFile name =>
            rintro c ⟨⟩
            exact Database.isTidy_attach _ name false
        | openReadOnly name =>
            rintro c ⟨⟩
            exact Database.isTidy_attach _ name true
        | openInMemory =>
            rintro c ⟨⟩
            exact Connection.isTidy_inMemory
        | close =>
            intro c hopen
            cases (Database.connection_release _).symm.trans hopen
  · exact h.of_eq (r.refused_of_inUse hfree).connection_eq

/-- A call keeps the connection that is held. -/
theorem Call.isTidy_exec {c : Call α} (hclosures : c.Closures (Db.Retains True 1))
    (h : db.IsTidy) : (c.run.exec db).2.IsTidy :=
  h.exec (Call.retains hclosures) c.snd_exec_of_none

end

/-! ## Programs -/

namespace Program

variable {running : List Database} {db : Database}

/-- A program on a database with a tidy connection, or with none, leaves a tidy connection or
none. -/
theorem isTidy_exec (p : Program α) (h : db.IsTidy) : (p.toDb.exec db).2.IsTidy := by
  induction p generalizing db with
  | pure | throw => exact h
  | bind p next ih ihNext =>
      rw [toDb, Db.exec_bind]
      have hfirst := ih h
      rcases hexec : p.toDb.exec db with ⟨failure | a, mid⟩
      · rw [hexec] at hfirst
        exact hfirst
      · rw [hexec] at hfirst
        exact ihNext a hfirst
  | tryCatch p handler ih ihHandler =>
      rw [toDb, Db.exec_tryCatch]
      have hfirst := ih h
      rcases hexec : p.toDb.exec db with ⟨failure | a, mid⟩
      · rw [hexec] at hfirst
        exact ihHandler failure hfirst
      · rw [hexec] at hfirst
        exact hfirst
  | statements script =>
      refine h.exec (Db.retains_runScript Fault.asExecute_ne_notOpen script) fun hnone => ?_
      obtain ⟨files, _, borrows⟩ := db
      cases hnone
      rfl
  | answer q =>
      refine h.exec (Db.retains_rows q) fun hnone => ?_
      obtain ⟨files, _, borrows⟩ := db
      cases hnone
      rfl
  | request r => exact r.isTidy_exec h
  | call c hplain => exact Call.isTidy_exec (hplain.mono fun _ => False.elim) h
  | withConnection body => exact Call.isTidy_exec (c := .withConnection body.toDb) body.retains h
  | load l mapping =>
      exact Call.isTidy_exec (c := .store (.query (l.operation fun row => (mapping row).toDb)))
        (l.mappings_operation (Db.Retains True 1) fun row => (mapping row).retains) h

/-- So is the connection before every request and every call in the course of the program. -/
theorem isTidy_of_mem_moments (p : Program α) (h : db.IsTidy) :
    ∀ m ∈ p.moments running db, m.before.IsTidy := by
  induction p generalizing running db with
  | pure | throw | statements | answer => exact List.forall_mem_nil _
  | bind p next ih ihNext =>
      refine List.forall_mem_append.mpr ⟨ih h, Db.forall_mem_following ?_ ?_⟩
      · exact fun a => ihNext a (p.isTidy_exec h)
      · exact fun _ => List.forall_mem_nil _
  | tryCatch p handler ih ihHandler =>
      refine List.forall_mem_append.mpr ⟨ih h, Db.forall_mem_following ?_ ?_⟩
      · exact fun _ => List.forall_mem_nil _
      · exact fun failure => ihHandler failure (p.isTidy_exec h)
  | request | call => exact List.forall_mem_singleton.mpr h
  | withConnection body ih =>
      refine List.forall_mem_cons.mpr ⟨h, ?_⟩
      split
      · exact List.forall_mem_nil _
      · exact ih (h.of_eq rfl)
  | load l mapping ih =>
      refine List.forall_mem_cons.mpr ⟨h, ?_⟩
      intro m hm
      obtain ⟨c, hc, hm⟩ := List.mem_flatMap.mp hm
      obtain ⟨-, hsame⟩ := MappedLoad.same_of_mem_calls (fun row => (mapping row).retains) hc
      exact ih c.1 (h.of_sameConnection hsame) m hm

/-- While a closure is running, the connection is to the file that it was to at its start, for
reading or for both. -/
theorem target_of_mem_moments (p : Program α) (hfree : db.borrows = 0) :
    ∀ m ∈ p.moments [] db, ∀ start ∈ m.running,
      m.before.connection.map (fun c => (c.location, c.readOnly))
        = start.connection.map fun c => (c.location, c.readOnly) := by
  intro m hm start hstart
  have hwithin := (p.moments_guarded ⟨hfree, List.forall_mem_nil _⟩ m hm).within
  obtain ⟨c, next, hopen, hnext, hevolves⟩ := hwithin.same start hstart
  obtain ⟨hlocation, hreadOnly⟩ := hevolves.location_eq
  rw [hopen, hnext, Option.map_some, Option.map_some, hlocation, hreadOnly]

end Program

end SqlStore
