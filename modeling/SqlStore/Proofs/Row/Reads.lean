/-
# Reads of a row in any order

A row is read by a sequence of reads, each of them by position or by name and as any type.  The
position counts the positional reads before it, whether they found a value or not, and nothing else
moves it.  So a positional read sees one place of the row and a read by name another, and neither
kind is seen by the other.

* `RowRead`, `RowRead.answers` : reads of a row and what they answer, one after another;
* `RowRead.behind_eq` : the position behind any reads;
* `RowRead.AnswersPlaces` : every read answers with what is at its own place;
* `RowRead.answers_kept`, `Narrow.ofValue?_eq_some_iff` : reads that are left out, and integers
  that do not fit;
* `RowRead.answers_spec` : all of it.
-/
import SqlStore.Table.Basic

namespace SqlStore

universe u

namespace RowReader

/-- Looking at the row does not change it. -/
theorem run_get_bind {α : Type} (reader : Cursor → RowReader α) (c : Cursor) :
    (get >>= reader).run.run c = (reader c).run.run c := rfl

/-- A positional read hands on what it finds and moves on by one column. -/
theorem run_next_bind {α β : Type} [Readable α] (reader : Option α → RowReader β) (c : Cursor) :
    (next α >>= reader).run.run c = (reader (c.valueAt? α c.index)).run.run c.advance := rfl

/-- A required read finds a value or fails with the place where there is none, and moves on by one
column in either case. -/
theorem run_require (α : Type) [Readable α] (c : Cursor) :
    (require α).run.run c
      = ((c.valueAt? α c.index).elim (.error (c.unreadable α)) .ok, c.advance) := by
  rw [require, run_get_bind, run_next_bind]
  cases c.valueAt? α c.index with
  | none => rfl
  | some v => rfl

end RowReader

/-! ## Reads -/

/-- A read of a row, with the type that is asked for. -/
inductive RowRead
  /-- The next column, which may be absent. -/
  | next (α : Type) [Readable α]
  /-- The next column, which has to be there. -/
  | require (α : Type) [Readable α]
  /-- The first column of a name. -/
  | named (α : Type) [Readable α] (name : String)
  /-- A column of a table. -/
  | column (α : Type) [Readable α] {Column Entity : Type} (t : Table Column Entity) (c : Column)
  /-- The number of columns. -/
  | size

namespace RowRead

/-- What a read hands on. -/
def Answer : RowRead → Type
  | next α => Option α
  | require α => α
  | named α _ => Option α
  | column α _ _ => Option α
  | size => Nat

/-- The read as a program. -/
def reader : (r : RowRead) → RowReader r.Answer
  | next α => RowReader.next α
  | require α => RowReader.require α
  | named α name => RowReader.get? α name
  | column α t c => t.get? α c
  | size => RowReader.size

/-- Whether the read takes the next column. -/
def isPositional : RowRead → Bool
  | next _ | require _ => true
  | named .. | column .. | size => false

/-- A read with its answer, which is an error if a required column is not there. -/
abbrev Answered := (r : RowRead) × Except QueryError r.Answer

/-- The answer of a read. -/
def answer (c : Cursor) (r : RowRead) : Except QueryError r.Answer := (r.reader.run.run c).1

/-- The cursor that a read leaves. -/
def after (c : Cursor) (r : RowRead) : Cursor := (r.reader.run.run c).2

/-- The answers of several reads, each from where the one before it has left the cursor.  A read
that fails does not keep the others from being made. -/
def answers : Cursor → List RowRead → List Answered
  | _, [] => []
  | c, r :: reads => ⟨r, r.answer c⟩ :: answers (r.after c) reads

/-- The cursor that several reads leave. -/
def behind (c : Cursor) (reads : List RowRead) : Cursor := reads.foldl after c

/-! ## The position -/

/-- A read moves the cursor by one column if it is positional, and else not at all. -/
theorem after_eq (c : Cursor) (r : RowRead) :
    r.after c = { c with index := c.index + if r.isPositional then 1 else 0 } := by
  cases r with
  | next α => rfl
  | require α => exact congrArg Prod.snd (RowReader.run_require α c)
  | named α name => rfl
  | column α t column => rfl
  | size => rfl

/-- The position behind several reads is the number of positional ones among them. -/
theorem behind_eq (c : Cursor) (reads : List RowRead) :
    behind c reads = { c with index := c.index + reads.countP isPositional } := by
  induction reads generalizing c with
  | nil => rfl
  | cons r reads ih =>
      have hcons : behind c (r :: reads) = behind (r.after c) reads := rfl
      rw [hcons, ih, after_eq, List.countP_cons]
      simp only [Cursor.mk.injEq, true_and]
      omega

/-- Every read is answered from behind the reads before it. -/
theorem getElem?_answers (c : Cursor) (reads : List RowRead) (i : Nat) :
    (answers c reads)[i]? = reads[i]?.map fun r => ⟨r, r.answer (behind c (reads.take i))⟩ := by
  induction reads generalizing c i with
  | nil => rfl
  | cons r reads ih =>
      cases i with
      | zero => rfl
      | succ i => exact ih (r.after c) i

/-! ## Places -/

/-- What is seen as a type at a place of a row. -/
def seen (α : Type) [Readable α] (values : Row) (place : Nat) : Option α :=
  values[place]?.join.bind Readable.ofValue?

/-- How many columns the first reads have taken. -/
def taken (reads : List RowRead) (i : Nat) : Nat := (reads.take i).countP isPositional

/-- Every read answers with what is seen at its place: a positional read at the place that the
positional reads before it lead to, a read by name at the first place of the name. -/
structure AnswersPlaces (names : List String) (values : Row) (reads : List RowRead)
    (answers : List Answered) : Prop where
  all : answers.map Sigma.fst = reads
  next : ∀ (i : Nat) (α : Type) [Readable α], reads[i]? = some (.next α) →
    answers[i]? = some ⟨.next α, .ok (seen α values (taken reads i))⟩
  require : ∀ (i : Nat) (α : Type) [Readable α] (v : α), reads[i]? = some (.require α) →
    seen α values (taken reads i) = some v → answers[i]? = some ⟨.require α, .ok v⟩
  /-- The message shows the name at the place, which may be missing. -/
  refuse : ∀ (i : Nat) (α : Type) [Readable α], reads[i]? = some (.require α) →
    seen α values (taken reads i) = none →
    answers[i]? = some ⟨.require α, .error (.unreadable (taken reads i)
      (names[taken reads i]?.getD "?") (Readable.typeName α))⟩
  named : ∀ (i : Nat) (α : Type) [Readable α] (name : String) (place : Nat),
    reads[i]? = some (.named α name) → names[place]? = some name → name ∉ names.take place →
    answers[i]? = some ⟨.named α name, .ok (seen α values place)⟩
  unnamed : ∀ (i : Nat) (α : Type) [Readable α] (name : String),
    reads[i]? = some (.named α name) → name ∉ names →
    answers[i]? = some ⟨.named α name, .ok none⟩
  /-- A column of a table is read by its name. -/
  column : ∀ (i : Nat) (α : Type) [Readable α] {Column Entity : Type} (t : Table Column Entity)
    (c : Column) (place : Nat), reads[i]? = some (.column α t c) →
    names[place]? = some (t.columnName c) → t.columnName c ∉ names.take place →
    answers[i]? = some ⟨.column α t c, .ok (seen α values place)⟩
  noColumn : ∀ (i : Nat) (α : Type) [Readable α] {Column Entity : Type} (t : Table Column Entity)
    (c : Column), reads[i]? = some (.column α t c) → t.columnName c ∉ names →
    answers[i]? = some ⟨.column α t c, .ok none⟩
  size : ∀ i : Nat, reads[i]? = some .size → answers[i]? = some ⟨.size, .ok values.length⟩

/-- The first place of a name. -/
theorem idxOf?_eq_some {names : List String} {name : String} {place : Nat}
    (hname : names[place]? = some name) (hfirst : name ∉ names.take place) :
    names.idxOf? name = some place := by
  obtain ⟨hplace, hname⟩ := List.getElem?_eq_some_iff.mp hname
  refine List.idxOf?_eq_some_iff.mpr ⟨hplace, by simp [hname], fun j hj => ?_⟩
  intro hsame
  refine hfirst (List.mem_take_iff_getElem.mpr ⟨j, ?_, ?_⟩)
  · omega
  · simpa using hsame

/-- The cursor behind the first reads of a row. -/
theorem behind_ofRow (names : List String) (values : Row) (reads : List RowRead) (i : Nat) :
    behind (.ofRow names values) (reads.take i) = ⟨names, values, taken reads i⟩ := by
  rw [behind_eq, Cursor.ofRow, Nat.zero_add, taken]

section

variable (names : List String) (values : Row) (reads : List RowRead)

/-- The answer of a read of a row, from the place that the reads before it lead to. -/
theorem getElem?_answers_ofRow {i : Nat} {r : RowRead} (hr : reads[i]? = some r) :
    (answers (.ofRow names values) reads)[i]?
      = some ⟨r, r.answer ⟨names, values, taken reads i⟩⟩ := by
  rw [getElem?_answers, hr, Option.map_some, behind_ofRow]

/-- A required column is there or is refused, as what is seen at its place. -/
theorem answer_require (α : Type) [Readable α] (place : Nat) :
    (RowRead.require α).answer ⟨names, values, place⟩
      = (seen α values place).elim
          (.error (.unreadable place (names[place]?.getD "?") (Readable.typeName α))) .ok :=
  congrArg Prod.fst (RowReader.run_require α ⟨names, values, place⟩)

/-- Every read of a row is answered from its place. -/
theorem answers_places :
    AnswersPlaces names values reads (answers (.ofRow names values) reads) := by
  have hanswer {i : Nat} {r : RowRead} (hr : reads[i]? = some r) :=
    getElem?_answers_ofRow names values reads hr
  -- A read by name looks the name up, wherever the cursor stands.
  have hfound (α : Type) [Readable α] {name : String} {place : Nat} (k : Nat)
      (hname : names[place]? = some name) (hfirst : name ∉ names.take place) :
      (⟨names, values, k⟩ : Cursor).get? α name = seen α values place := by
    rw [Cursor.get?, idxOf?_eq_some hname hfirst]
    rfl
  have hmissing (α : Type) [Readable α] {name : String} (k : Nat) (hname : name ∉ names) :
      (⟨names, values, k⟩ : Cursor).get? α name = none := by
    rw [Cursor.get?, List.idxOf?_eq_none_iff.mpr hname]
    rfl
  constructor
  case all =>
    refine List.ext_getElem? fun i => ?_
    rw [List.getElem?_map, getElem?_answers, Option.map_map]
    exact Option.map_id'
  case next =>
    intro i α _ hr
    exact hanswer hr
  case require =>
    intro i α _ v hr hv
    rw [hanswer hr, answer_require, hv]
    rfl
  case refuse =>
    intro i α _ hr hv
    rw [hanswer hr, answer_require, hv]
    rfl
  case named =>
    intro i α _ name place hr hname hfirst
    rw [hanswer hr, ← hfound α (taken reads i) hname hfirst]
    rfl
  case unnamed =>
    intro i α _ name hr hname
    rw [hanswer hr, ← hmissing α (taken reads i) hname]
    rfl
  case column =>
    intro i α _ _ _ t c place hr hname hfirst
    rw [hanswer hr, ← hfound α (taken reads i) hname hfirst]
    rfl
  case noColumn =>
    intro i α _ _ _ t c hr hname
    rw [hanswer hr, ← hmissing α (taken reads i) hname]
    rfl
  case size =>
    intro i hr
    exact hanswer hr

/-- Behind the last column nothing is seen. -/
theorem seen_of_length_le (α : Type) [Readable α] {place : Nat} (h : values.length ≤ place) :
    seen α values place = none := by
  rw [seen, List.getElem?_eq_none h]
  rfl

/-- A required column is refused just where the next column would be absent. -/
theorem refused_iff {i : Nat} (α : Type) [Readable α] (hr : reads[i]? = some (.require α)) :
    (∃ e, (answers (.ofRow names values) reads)[i]? = some ⟨.require α, .error e⟩) ↔
      (answers (.ofRow names values) (reads.set i (.next α)))[i]? = some ⟨.next α, .ok none⟩ := by
  have hi : i < reads.length := (List.getElem?_eq_some_iff.mp hr).1
  have hset : (reads.set i (.next α))[i]? = some (.next α) := by
    rw [List.getElem?_set_self hi]
  have htaken : taken (reads.set i (.next α)) i = taken reads i := by
    rw [taken, List.take_set_of_le (Nat.le_refl i), taken]
  have hplaces := answers_places names values reads
  rw [(answers_places names values _).next i α hset, htaken]
  cases hv : seen α values (taken reads i) with
  | none => exact iff_of_true ⟨_, hplaces.refuse i α hr hv⟩ rfl
  | some v =>
      refine iff_of_false ?_ nofun
      rintro ⟨e, he⟩
      rw [hplaces.require i α v hr hv] at he
      cases he

end

/-! ## Reads that are left out -/

/-- The elements of a list at the positions to keep. -/
def kept {β : Type u} : (Nat → Bool) → List β → List β
  | _, [] => []
  | keep, b :: bs =>
      if keep 0 then b :: kept (fun i => keep (i + 1)) bs else kept (fun i => keep (i + 1)) bs

/-- Reads that are not positional can be left out anywhere, and the others are answered as
before. -/
theorem answers_kept (c : Cursor) (reads : List RowRead) (keep : Nat → Bool)
    (h : ∀ i r, reads[i]? = some r → keep i = false → r.isPositional = false) :
    answers c (kept keep reads) = kept keep (answers c reads) := by
  induction reads generalizing c keep with
  | nil => rfl
  | cons r reads ih =>
      have hrest (c : Cursor) := ih c (fun i => keep (i + 1)) fun i r hr => h (i + 1) r hr
      cases hkeep : keep 0 with
      | true =>
          simp only [kept, answers, hkeep, if_true]
          rw [hrest]
      | false =>
          -- The read that is left out has not moved the cursor.
          have hstill : r.after c = c := by
            rw [after_eq, h 0 r rfl hkeep]
            rfl
          simp only [kept, answers, hkeep, Bool.false_eq_true, if_false, hstill]
          exact hrest c

end RowRead

/-! ## Integers that do not fit -/

/-- A stored value that is an integer; a truth value is zero or one. -/
inductive StoresInteger : Value → Int64 → Prop
  | integer (n : Int64) : StoresInteger (.integer n) n
  | boolean (b : Bool) : StoresInteger (.boolean b) (if b then 1 else 0)

/-- An integer type that does not hold every stored integer, with the integer that each of its
values is. -/
inductive Narrow : (α : Type) → [Readable α] → (α → Int) → Prop
  | int32 : Narrow Int32 Int32.toInt
  | uint32 : Narrow UInt32 fun n => n.toNat
  | uint64 : Narrow UInt64 fun n => n.toNat

theorem toInt64?_eq_some_iff {v : Value} {n : Int64} :
    v.toInt64? = some n ↔ StoresInteger v n := by
  constructor
  · intro h
    cases v with
    | integer m =>
        cases h
        exact .integer _
    | boolean b =>
        cases h
        exact .boolean b
    | real x => cases h
    | text s => cases h
    | list items => cases h
  · rintro (n | b) <;> rfl

/-- A read between two bounds finds a stored integer that lies between them. -/
theorem toIntBetween?_eq_some_iff {low high : Int} {v : Value} {k : Int} :
    v.toIntBetween? low high = some k ↔
      ∃ n, StoresInteger v n ∧ n.toInt = k ∧ low ≤ k ∧ k < high := by
  rw [Value.toIntBetween?, Option.bind_eq_some_iff]
  constructor
  · rintro ⟨n, hn, hk⟩
    split at hk
    · rename_i hbounds
      cases hk
      exact ⟨n, toInt64?_eq_some_iff.mp hn, rfl, hbounds⟩
    · cases hk
  · rintro ⟨n, hn, rfl, hbounds⟩
    exact ⟨n, toInt64?_eq_some_iff.mpr hn, if_pos hbounds⟩

/-- A type that holds the integers between two bounds. -/
theorem map_toIntBetween?_eq_some_iff {α : Type} {low high : Int} (ofInt : Int → α)
    (toInt : α → Int) (hto : ∀ k, low ≤ k → k < high → toInt (ofInt k) = k)
    (hof : ∀ a, ofInt (toInt a) = a) (hlow : ∀ a, low ≤ toInt a) (hhigh : ∀ a, toInt a < high)
    {v : Value} {a : α} :
    (v.toIntBetween? low high).map ofInt = some a ↔
      ∃ n, StoresInteger v n ∧ n.toInt = toInt a := by
  rw [Option.map_eq_some_iff]
  constructor
  · rintro ⟨k, hk, rfl⟩
    obtain ⟨n, hn, hnk, hl, hh⟩ := toIntBetween?_eq_some_iff.mp hk
    exact ⟨n, hn, by rw [hto k hl hh, hnk]⟩
  · rintro ⟨n, hn, hna⟩
    exact ⟨toInt a, toIntBetween?_eq_some_iff.mpr ⟨n, hn, hna, hlow a, hhigh a⟩, hof a⟩

/-- A narrow integer is read just where the stored integer is that integer. -/
theorem Narrow.ofValue?_eq_some_iff {α : Type} [Readable α] {toInt : α → Int}
    (h : Narrow α toInt) {v : Value} {a : α} :
    Readable.ofValue? v = some a ↔ ∃ n, StoresInteger v n ∧ n.toInt = toInt a := by
  cases h with
  | int32 =>
      refine map_toIntBetween?_eq_some_iff Int32.ofInt Int32.toInt ?_ ?_ ?_ ?_
      · intro k hl hh
        exact Int32.toInt_ofInt_of_le hl hh
      · exact fun a => Int32.ofInt_toInt a
      · exact fun a => Int32.le_toInt a
      · exact fun a => Int32.toInt_lt a
  | uint32 =>
      have hsize : UInt32.size = 4294967296 := rfl
      refine map_toIntBetween?_eq_some_iff (fun k => UInt32.ofNat k.toNat) (fun n => n.toNat)
        ?_ ?_ ?_ ?_
      · intro k hl hh
        rw [UInt32.toNat_ofNat_of_lt' (by omega)]
        omega
      · intro a
        simp
      · intro a
        omega
      · intro a
        have := a.toNat_lt
        omega
  | uint64 =>
      have hsize : UInt64.size = 18446744073709551616 := rfl
      refine map_toIntBetween?_eq_some_iff (fun k => UInt64.ofNat k.toNat) (fun n => n.toNat)
        ?_ ?_ ?_ ?_
      · intro k hl hh
        rw [UInt64.toNat_ofNat_of_lt' (by omega)]
        omega
      · intro a
        simp
      · intro a
        omega
      · intro a
        have := a.toNat_lt
        omega

/-! ## All reads -/

namespace RowRead

/-- Reads of a row are answered from their places, however they are mixed.  Behind the last column
a positional read finds nothing, a required column is refused just where the next one would be
absent, reads that are not positional can be left out without a trace, and a narrow integer is
found where the integer at its place is that integer. -/
theorem answers_spec (names : List String) (values : Row) (reads : List RowRead) :
    AnswersPlaces names values reads (answers (.ofRow names values) reads) ∧
    (∀ (i : Nat) (α : Type) [Readable α], values.length ≤ taken reads i →
      (reads[i]? = some (.next α) →
        (answers (.ofRow names values) reads)[i]? = some ⟨.next α, .ok none⟩) ∧
      (reads[i]? = some (.require α) → ∃ e, e.isDecode = true ∧
        (answers (.ofRow names values) reads)[i]? = some ⟨.require α, .error e⟩)) ∧
    (∀ (i : Nat) (α : Type) [Readable α], reads[i]? = some (.require α) →
      ((∃ e, (answers (.ofRow names values) reads)[i]? = some ⟨.require α, .error e⟩) ↔
        (answers (.ofRow names values) (reads.set i (.next α)))[i]?
          = some ⟨.next α, .ok none⟩)) ∧
    (∀ keep : Nat → Bool,
      (∀ i r, reads[i]? = some r → keep i = false → r.isPositional = false) →
      answers (.ofRow names values) (kept keep reads)
        = kept keep (answers (.ofRow names values) reads)) ∧
    ∀ (α : Type) [Readable α] (toInt : α → Int), Narrow α toInt → ∀ (place : Nat) (a : α),
      seen α values place = some a ↔
        ∃ v n, values[place]? = some (some v) ∧ StoresInteger v n ∧ n.toInt = toInt a := by
  have hplaces := answers_places names values reads
  refine ⟨hplaces, ?_, ?_, ?_, ?_⟩
  · intro i α _ hend
    have hnone : seen α values (taken reads i) = none := seen_of_length_le values α hend
    constructor
    · intro hr
      rw [hplaces.next i α hr, hnone]
    · intro hr
      exact ⟨_, rfl, hplaces.refuse i α hr hnone⟩
  · intro i α _ hr
    exact refused_iff names values reads α hr
  · intro keep h
    exact answers_kept _ reads keep h
  · intro α _ toInt hnarrow place a
    rw [seen, Option.bind_eq_some_iff]
    constructor
    · rintro ⟨v, hv, ha⟩
      obtain ⟨n, hn, hna⟩ := hnarrow.ofValue?_eq_some_iff.mp ha
      exact ⟨v, n, Option.join_eq_some_iff.mp hv, hn, hna⟩
    · rintro ⟨v, n, hv, hn, hna⟩
      exact ⟨v, Option.join_eq_some_iff.mpr hv, hnarrow.ofValue?_eq_some_iff.mpr ⟨n, hn, hna⟩⟩

/-- A row with a name twice and a name without a value, and an integer too large for its type. -/
theorem answers_spec_twice :
    let names := ["id", "name", "id"]
    let values : Row := [some (.integer 3000000000), some (.text "sudo")]
    let reads : List RowRead := [.named UInt32 "id", .next Int32, .size, .next String,
      .require Bool, .named Int64 "id", .next Int64]
    let answered := answers (.ofRow names values) reads
    answered[0]? = some ⟨.named UInt32 "id", .ok (some 3000000000)⟩ ∧
    answered[1]? = some ⟨.next Int32, .ok none⟩ ∧
    answered[4]? = some ⟨.require Bool, .error (.unreadable 2 "id" "bool")⟩ ∧
    answered[6]? = some ⟨.next Int64, .ok none⟩ ∧
    answers (.ofRow names values) [.next Int32, .next String, .require Bool, .next Int64]
      = kept (fun i => reads[i]?.any isPositional) answered := by
  intro names values reads answered
  obtain ⟨hplaces, hend, hrefused, hkept, hnarrow⟩ := answers_spec names values reads
  refine ⟨?_, ?_, ?_, ?_, ?_⟩
  · exact hplaces.named 0 UInt32 "id" 0 rfl rfl (by decide)
  · exact hplaces.next 1 Int32 rfl
  · exact hplaces.refuse 4 Bool rfl rfl
  · exact (hend 6 Int64 (by decide)).1 rfl
  · refine hkept (fun i => reads[i]?.any isPositional) fun i r hr hkeep => ?_
    simp only [hr] at hkeep
    exact hkeep

end RowRead

end SqlStore
