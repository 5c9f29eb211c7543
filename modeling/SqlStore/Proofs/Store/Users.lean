/-
# Users in a table

A user is a row of four cells under the number that is its id.  The table that a database makes of
the declaration of `users` keeps such rows in the order of their ids; an insert puts one more row
among them, or in the place of the one with its id, or leaves it out.  What the table holds after
any inserts is what a map from ids to users holds that takes them one after another.

* `User.cells`, `usersTable` : users as a database stores them;
* `insertUser`, `insertRow_usersTable` : one insert;
* `keepUser`, `Lists` : the map that takes users one after another, and lists of what it holds;
* `Content.run_create_users`, `Content.run_insert_users`, `Content.select_users` : the statements.
-/
import SqlStore.Table.Sample
import SqlStore.Proofs.Store.Change

namespace SqlStore

/-! ## Users as rows -/

namespace User

/-- The cells of a user's row. -/
def cells (u : User) : List Cell :=
  [.integer u.userId, .text u.name, u.age.elim .null .integer, u.nickname.elim .null .text]

/-- Whether a text of the user holds the character zero, which the literal of a text cannot. -/
def hasZero (u : User) : Bool :=
  u.name.contains '\x00' || u.nickname.any (·.contains '\x00')

/-- A user's row. -/
def stored (u : User) : StoredRow := { id := u.userId, cells := u.cells }

/-- Users are known by their rows. -/
theorem stored_injective : Function.Injective stored := by
  rintro ⟨id, name, age, nickname⟩ ⟨id', name', age', nickname'⟩ h
  cases age <;> cases age' <;> cases nickname <;> cases nickname' <;>
    simp_all [stored, cells]

end User

/-- The table of users, with their rows. -/
def usersTable (us : List User) : StoredTable where
  name := "users"
  columns := [⟨"userID", .integer, false, .null⟩, ⟨"name", .text, true, .null⟩,
    ⟨"age", .integer, false, .null⟩, ⟨"nickname", .text, false, .null⟩]
  idColumn := some 0
  counting := false
  uniqueKeys := []
  rows := us.map User.stored
  lastId := 0

/-- The declaration of `users` lays out the empty table of users. -/
theorem ofDeclarations_users :
    StoredTable.ofDeclarations "users" (users.columns.map users.declaration)
      = .ok (usersTable []) := by
  apply eq_ok_of_toOption
  decide +kernel

/-! ## One insert -/

/-- Puts a user among others by its id. -/
def placeUser (u : User) : List User → List User
  | [] => [u]
  | v :: vs => if u.userId < v.userId then u :: v :: vs else v :: placeUser u vs

/-- The users after one more has been inserted: in the place of the one of its id if it is to
replace it, and not at all if that one is to stay. -/
def insertUser (replace : Bool) (us : List User) (u : User) : List User :=
  if us.any fun v => u.userId == v.userId then
    if replace then placeUser u (us.filter fun v => !(u.userId == v.userId)) else us
  else placeUser u us

theorem place_stored (u : User) (us : List User) :
    StoredTable.place u.stored (us.map User.stored) = (placeUser u us).map User.stored := by
  induction us with
  | nil => rfl
  | cons v vs ih =>
      rw [List.map_cons, StoredTable.place, placeUser, ih]
      by_cases h : u.userId < v.userId
      · have hstored : u.stored.id < v.stored.id := h
        rw [if_pos h, if_pos hstored]
        rfl
      · have hstored : ¬ u.stored.id < v.stored.id := h
        rw [if_neg h, if_neg hstored]
        rfl

section

variable (us : List User) (u : User)

/-- A user is stored as it is, under the number that is its id. -/
theorem numbered_stored :
    (usersTable us).numbered u.userId ((usersTable us).stored u.cells) = u.stored := by
  obtain ⟨userId, name, age, nickname⟩ := u
  cases age <;> cases nickname <;> rfl

/-- There is no `NULL` where there must be none. -/
theorem missing_stored : (usersTable us).missing? u.stored.cells = none := rfl

/-- Users of one id are in conflict. -/
theorem conflict_stored (v : User) :
    (usersTable us).conflict u.stored v.stored = (u.userId == v.userId) := Bool.or_false _

theorem any_conflict_stored :
    (us.map User.stored).any ((usersTable us).conflict u.stored)
      = us.any fun v => u.userId == v.userId := by
  rw [List.any_map]
  congr 1
  funext v
  exact conflict_stored us u v

theorem filter_conflict_stored :
    (us.map User.stored).filter (fun r => !(usersTable us).conflict u.stored r)
      = (us.filter fun v => !(u.userId == v.userId)).map User.stored := by
  rw [List.filter_map]
  congr 2
  funext v
  exact congrArg not (conflict_stored us u v)

/-- An insert of a user's cells is an insert of the user. -/
theorem insertRow_usersTable (policy : ConflictPolicy) :
    (usersTable us).insertRow (some policy) u.cells
      = .ok (usersTable (insertUser (policy == .replace) us u)) := by
  have hid : (usersTable us).idOf (cellAt u.cells 0) = .ok u.userId := rfl
  have hcounting : (usersTable us).counting = false := rfl
  have hrows : (usersTable us).rows = us.map User.stored := rfl
  -- Whatever the policy, the row is the user's.
  have hrow : (if (some policy == some ConflictPolicy.replace) = true then
      { id := u.stored.id, cells := (usersTable us).withDefaults u.stored.cells } else u.stored)
      = u.stored := by
    cases policy <;> rfl
  unfold StoredTable.insertRow insertUser
  show (do
    let id ← (usersTable us).idOf (cellAt u.cells 0)
    _) = _
  rw [hid]
  simp only [bind, Except.bind, numbered_stored, hrow, missing_stored, hrows, hcounting,
    any_conflict_stored, filter_conflict_stored, place_stored]
  by_cases hany : (us.any fun v => u.userId == v.userId) = true
  · rw [if_pos hany, if_pos hany]
    cases policy <;> rfl
  · rw [if_neg hany, if_neg hany]
    rfl

end

/-! ## What is kept -/

/-- The users that are kept by their ids, after one more: it takes the place of the one of its id if
it is to replace it. -/
def keepUser (replace : Bool) (kept : Int64 → Option User) (u : User) (id : Int64) : Option User :=
  if id = u.userId then
    match kept id with
    | some v => some (if replace then u else v)
    | none => some u
  else kept id

section

variable {replace : Bool} {kept : Int64 → Option User} {u v : User}

theorem keepUser_of_some (h : kept u.userId = some v) :
    keepUser replace kept u
      = fun id => if id = u.userId then some (if replace then u else v) else kept id := by
  funext id
  unfold keepUser
  by_cases hid : id = u.userId
  · rw [if_pos hid, if_pos hid, hid, h]
  · rw [if_neg hid, if_neg hid]

theorem keepUser_of_none (h : kept u.userId = none) :
    keepUser replace kept u = fun id => if id = u.userId then some u else kept id := by
  funext id
  unfold keepUser
  by_cases hid : id = u.userId
  · rw [if_pos hid, if_pos hid, hid, h]
  · rw [if_neg hid, if_neg hid]

end

/-- An id is kept after one more user if it is the user's or was kept before. -/
theorem isSome_keepUser (replace : Bool) (kept : Int64 → Option User) (u : User) (id : Int64) :
    (keepUser replace kept u id).isSome = true ↔ u.userId = id ∨ (kept id).isSome = true := by
  unfold keepUser
  by_cases hid : id = u.userId
  · rw [if_pos hid]
    refine iff_of_true ?_ (.inl hid.symm)
    cases kept id <;> rfl
  · rw [if_neg hid, or_iff_right (Ne.symm hid)]

theorem isSome_foldl_keepUser (us : List User) (replace : Bool) (kept : Int64 → Option User)
    (id : Int64) : (us.foldl (keepUser replace) kept id).isSome = true ↔
      (∃ u ∈ us, u.userId = id) ∨ (kept id).isSome = true := by
  induction us generalizing kept with
  | nil => simp
  | cons u us ih =>
      rw [List.foldl_cons, ih, isSome_keepUser]
      simp only [List.mem_cons, exists_eq_or_imp]
      rw [or_left_comm, or_assoc]

/-- The users are those that are kept, each once, in the order of their ids. -/
structure Lists (us : List User) (kept : Int64 → Option User) : Prop where
  ascending : us.Pairwise fun u v => u.userId < v.userId
  mem : ∀ id u, kept id = some u ↔ u ∈ us ∧ u.userId = id

theorem mem_placeUser {u v : User} {us : List User} : v ∈ placeUser u us ↔ v = u ∨ v ∈ us := by
  have hperm : ((placeUser u us).map User.stored).Perm ((u :: us).map User.stored) := by
    rw [← place_stored]
    exact StoredTable.perm_place u.stored (us.map User.stored)
  rw [← List.mem_cons, ← List.mem_map_of_injective User.stored_injective, hperm.mem_iff,
    List.mem_map_of_injective User.stored_injective]

/-- A user is put where its id belongs. -/
theorem ascending_placeUser {u : User} {us : List User}
    (h : us.Pairwise fun v w => v.userId < w.userId) (hfresh : ∀ v ∈ us, v.userId ≠ u.userId) :
    (placeUser u us).Pairwise fun v w => v.userId < w.userId := by
  have hrows : (us.map User.stored).Pairwise fun r r' => r.id < r'.id := List.pairwise_map.mpr h
  have hnew : ∀ r ∈ us.map User.stored, u.stored.id ≠ r.id :=
    List.forall_mem_map.mpr fun v hv => (hfresh v hv).symm
  have hplaced := StoredTable.pairwise_place hrows hnew
  rw [place_stored, List.pairwise_map] at hplaced
  exact hplaced

namespace Lists

variable {us : List User} {kept : Int64 → Option User}

theorem nil : Lists [] fun _ => none := by
  refine ⟨.nil, ?_⟩
  intro id u
  simp

/-- A user of a new id is put among the others. -/
theorem place (h : Lists us kept) {u : User} (hfresh : ∀ v ∈ us, v.userId ≠ u.userId) :
    Lists (placeUser u us) fun id => if id = u.userId then some u else kept id := by
  refine ⟨ascending_placeUser h.ascending hfresh, ?_⟩
  intro id v
  rw [mem_placeUser]
  by_cases hid : id = u.userId
  · rw [if_pos hid, Option.some.injEq]
    constructor
    · rintro rfl
      exact ⟨.inl rfl, hid.symm⟩
    · rintro ⟨rfl | hv, hvid⟩
      · rfl
      · exact absurd (hvid.trans hid) (hfresh v hv)
  · rw [if_neg hid, h.mem]
    constructor
    · rintro ⟨hv, hvid⟩
      exact ⟨.inr hv, hvid⟩
    · rintro ⟨rfl | hv, hvid⟩
      · exact absurd hvid.symm hid
      · exact ⟨hv, hvid⟩

/-- The user of an id is taken out. -/
theorem filter (h : Lists us kept) (u : User) :
    Lists (us.filter fun v => !(u.userId == v.userId))
      fun id => if id = u.userId then none else kept id := by
  refine ⟨h.ascending.filter _, ?_⟩
  intro id v
  rw [List.mem_filter]
  by_cases hid : id = u.userId
  · rw [if_pos hid]
    refine iff_of_false (by simp) ?_
    rintro ⟨⟨-, hne⟩, rfl⟩
    simp [hid] at hne
  · rw [if_neg hid, h.mem]
    constructor
    · rintro ⟨hv, rfl⟩
      exact ⟨⟨hv, by simpa using Ne.symm hid⟩, rfl⟩
    · rintro ⟨⟨hv, -⟩, hvid⟩
      exact ⟨hv, hvid⟩

/-- What is listed after an insert is what is kept after it. -/
theorem insert (h : Lists us kept) (replace : Bool) (u : User) :
    Lists (insertUser replace us u) (keepUser replace kept u) := by
  unfold insertUser
  by_cases hany : (us.any fun v => u.userId == v.userId) = true
  · obtain ⟨v, hv, hid⟩ := List.any_eq_true.mp hany
    have hkept : kept u.userId = some v := (h.mem _ _).mpr ⟨hv, (beq_iff_eq.mp hid).symm⟩
    rw [if_pos hany, keepUser_of_some hkept]
    cases replace with
    | true =>
        have hfresh : ∀ w ∈ us.filter (fun w => !(u.userId == w.userId)), w.userId ≠ u.userId := by
          intro w hw hwid
          have hne := (List.mem_filter.mp hw).2
          simp [hwid] at hne
        have hplace := (h.filter u).place hfresh
        have hsame : (fun id => if id = u.userId then some u
            else if id = u.userId then none else kept id)
            = fun id => if id = u.userId then some u else kept id := by
          funext id
          by_cases hid : id = u.userId
          · rw [if_pos hid, if_pos hid]
          · rw [if_neg hid, if_neg hid, if_neg hid]
        rw [hsame] at hplace
        exact hplace
    | false =>
        have hsame : (fun id => if id = u.userId then some v else kept id) = kept := by
          funext id
          by_cases hid : id = u.userId
          · rw [if_pos hid, hid, hkept]
          · rw [if_neg hid]
        show Lists us fun id => if id = u.userId then some v else kept id
        rw [hsame]
        exact h
  · have hfresh : ∀ v ∈ us, v.userId ≠ u.userId := by
      intro v hv hid
      exact hany (List.any_eq_true.mpr ⟨v, hv, beq_iff_eq.mpr hid.symm⟩)
    have hkept : kept u.userId = none := by
      cases hcase : kept u.userId with
      | none => rfl
      | some v =>
          obtain ⟨hv, hid⟩ := (h.mem _ _).mp hcase
          exact absurd hid (hfresh v hv)
    rw [if_neg hany, keepUser_of_none hkept]
    exact h.place hfresh

end Lists

/-! ## Statements -/

/-- The columns of the table as a statement can name them. -/
def usersScope : Scope :=
  [⟨"users", "userID", .integer⟩, ⟨"users", "name", .text⟩, ⟨"users", "age", .integer⟩,
    ⟨"users", "nickname", .text⟩]

theorem position_usersScope :
    users.columnNames.mapM (usersScope.position none) = .ok [0, 1, 2, 3] := by
  apply eq_ok_of_toOption
  decide +kernel

/-- All users in the order of their ids. -/
def usersById : SelectQuery users := (SelectQuery.all users).orderBy .userId true

/-- What that query shows. -/
def usersShown : Projection where
  outputs := usersScope.positions
  test := .constant true
  ordering := [⟨0, true⟩]
  limit := none

namespace Content

variable {c : Content} {us : List User}

/-- What the creation of the table does depends on whether its name is taken. -/
theorem run_create_users (c : Content) :
    c.run users.create
      = if (c.table? "users").isSome then .ok (c, 0)
        else if c.hasIndex "users" then .error (.nameTaken "users")
        else .ok ({ c with tables := c.tables ++ [usersTable []] }, 0) := by
  have hname : requireName "users" = .ok () := by
    apply eq_ok_of_toOption
    decide +kernel
  have hsystem : isSystemName "users" = false := by decide +kernel
  obtain ⟨stored, hstored⟩ : ∃ stored,
      (users.columns.map users.declaration).mapM ColumnDecl.stored = .ok stored :=
    ⟨(usersTable []).columns, by
      apply eq_ok_of_toOption
      decide +kernel⟩
  have hcolumns : (users.columns.map users.declaration).isEmpty = false := rfl
  show (c.create "users" (users.columns.map users.declaration)).map (·, 0) = _
  unfold create
  simp only [hname, hcolumns, hstored, hsystem, ofDeclarations_users, bind, Except.bind]
  by_cases htable : (c.table? "users").isSome = true
  · simp only [htable, if_true]
    rfl
  · by_cases hindex : c.hasIndex "users" = true
    · simp only [htable, hindex, if_true]
      rfl
    · simp only [htable, hindex]
      rfl

theorem table_users (h : c.table? "users" = some (usersTable us)) :
    c.table "users" = .ok (usersTable us) := by
  have hname : isIdentifier "users" = true := by decide +kernel
  unfold table
  rw [if_pos hname, h]
  rfl

/-- The values of a user denote the user's cells. -/
theorem cells_of_serialize (u : User) :
    (users.serialize u).mapM Cell.ofOperand? = if u.hasZero then none else some u.cells := by
  have hserialize : users.serialize u = [some (.integer u.userId), some (.text u.name),
      u.age.map .integer, u.nickname.map .text] := rfl
  have hage : Cell.ofOperand? (u.age.map .integer) = some (u.age.elim .null .integer) := by
    cases u.age <;> rfl
  have htext (s : String) : Cell.ofOperand? (some (.text s))
      = if s.contains '\x00' then none else some (.text s) := rfl
  rw [hserialize, User.hasZero, User.cells]
  simp only [List.mapM_cons, List.mapM_nil, htext, hage, bind, pure]
  cases u.name.contains '\x00' with
  | true => rfl
  | false =>
      cases u.nickname with
      | none => rfl
      | some s =>
          rw [Option.map_some, htext, Option.any_some]
          cases s.contains '\x00' <;> rfl

/-- An insert of a user puts the user into the table, unless a text cannot be written down. -/
theorem run_insert_users (h : c.table? "users" = some (usersTable us)) (u : User)
    (policy : ConflictPolicy) :
    c.run (users.insert u policy)
      = if u.hasZero then .error .malformed
        else .ok (c.withTable (usersTable (insertUser (policy == .replace) us u)), 0) := by
  have hpositions : (usersTable us).positions users.columnNames = .ok [0, 1, 2, 3] :=
    position_usersScope
  show (c.insert "users" users.columnNames (users.serialize u) policy).map (·, 0) = _
  unfold insert
  rw [table_users h, cells_of_serialize]
  simp only [bind, Except.bind, hpositions]
  cases u.hasZero with
  | true => rfl
  | false =>
      have hspread : (usersTable us).spread [0, 1, 2, 3] u.cells = u.cells := rfl
      have hlength : ¬ u.cells.length ≠ [0, 1, 2, 3].length := fun hne => hne rfl
      simp only [orMalformed, Bool.false_eq_true, if_false, Option.elim_some, if_neg hlength,
        hspread, insertRow_usersTable]
      rfl

/-- Rows in the order of their ids are in the order of their first cells. -/
theorem orderRows_cells {u v : User} (h : u.userId < v.userId) :
    orderRows usersShown.ordering u.cells v.cells = .lt := by
  have hpos : (0 : Int) < Double.unitsPerOne := by
    rw [Double.unitsPerOne, Nat.one_shiftLeft]
    exact Int.natCast_pos.mpr (Nat.two_pow_pos 1074)
  have hunits : u.userId.toInt * Double.unitsPerOne < v.userId.toInt * Double.unitsPerOne :=
    Int.mul_lt_mul_of_pos_right (Int64.lt_iff_toInt_lt.mp h) hpos
  have hrank : (Cell.integer u.userId).rank (.integer v.userId) = .lt :=
    Int.compare_eq_lt.mpr hunits
  show ((Cell.integer u.userId).rank (.integer v.userId)).then .eq = .lt
  rw [hrank]
  rfl

/-- All users pass its test. -/
theorem passing_users (us : List User) :
    (usersTable us).source.passing usersShown.test = us.map User.cells := by
  show ((us.map User.stored).map StoredRow.cells).filter _ = _
  rw [List.map_map, List.filter_eq_self.mpr]
  · rfl
  · exact fun _ _ => rfl

/-- It shows the users as they are. -/
theorem answer_users (hascending : us.Pairwise fun u v => u.userId < v.userId) :
    (usersTable us).source.answer usersShown = .ok ⟨users.columnNames, us.map User.cells⟩ := by
  have hsorted : (us.map User.cells).Pairwise fun a b =>
      (orderRows usersShown.ordering a b != .gt) = true := by
    rw [List.pairwise_map]
    refine hascending.imp fun h => ?_
    rw [orderRows_cells h]
    rfl
  have hshown : (us.map User.cells).map (Source.showRow usersShown.outputs 0)
      = us.map User.cells := by
    rw [List.map_map]
    rfl
  unfold Source.answer Source.arranged Source.present
  rw [passing_users]
  have hcount : usersShown.outputs.contains .count = false := rfl
  simp only [hcount, Bool.false_eq_true, if_false, List.mergeSort_of_pairwise hsorted, hshown]
  rfl

theorem selectPlan_users (h : c.table? "users" = some (usersTable us)) :
    c.selectPlan usersById.statement = .ok ((usersTable us).source, usersShown) := by
  have htable : c.table usersById.statement.table = .ok (usersTable us) := table_users h
  have hscope : (usersTable us).source.scope = usersScope := rfl
  have houtputs : usersById.statement.selection.outputs usersScope = .ok usersScope.positions := rfl
  have htest : usersById.statement.filter.conditions.test usersScope = .ok (.constant true) := rfl
  have hascendingBy : usersById.statement.filter.ascending = ["userID"] := rfl
  have hdescendingBy : usersById.statement.filter.descending = [] := rfl
  have hid : usersScope.position none "userID" = .ok 0 := by
    apply eq_ok_of_toOption
    decide +kernel
  unfold selectPlan
  simp only [htable, hscope, houtputs, htest, hascendingBy, hdescendingBy, hid, bind, Except.bind,
    List.mapM_cons, List.mapM_nil, pure, Except.pure]
  rfl

theorem select_users (h : c.table? "users" = some (usersTable us))
    (hascending : us.Pairwise fun u v => u.userId < v.userId) :
    c.select usersById.statement = .ok ⟨users.columnNames, us.map User.cells⟩ := by
  unfold select
  rw [selectPlan_users h]
  exact answer_users hascending

end Content

end SqlStore
