/-
# Redacted texts

A text is redacted by emptying its literals.  What stands between the literals of a statement is
plain: names, numbers and words of the language.  A redaction is put together like the text itself,
one part after another, and a statement and its redaction are the same outside of literals.

* `Plain` : texts without literals that the scan lets pass;
* `IsWord.plain`, `Double.plain_literal` : names and numbers are plain;
* `Redacts` : a text and its redaction, with the depth before and behind them;
* `Redacts.statement` : both are one statement if a semicolon ends them.
-/
import Mathlib.Data.List.Forall2
import SqlStore.Proofs.Text.Numeral
import SqlStore.Proofs.Text.Scan
import SqlStore.Store.Identifier

namespace SqlStore

/-! ## Plain texts -/

/-- A text without literals over which the scan goes from one depth to another. -/
def Plain (i j : Nat) (s : List Char) : Prop :=
  Scan.run ⟨i, false⟩ (s.map .char) = some ⟨j, false⟩

instance (i j : Nat) (s : List Char) : Decidable (Plain i j s) :=
  inferInstanceAs (Decidable (_ = _))

/-- The scan does not look for a character of a kind of which it looks for none. -/
theorem not_mem_watched {kind : Char → Bool} (hkind : Scan.watched.all (!kind ·) = true) {c : Char}
    (hc : kind c = true) : c ∉ Scan.watched := by
  intro hmem
  have hnot := List.all_eq_true.mp hkind c hmem
  rw [hc] at hnot
  cases hnot

namespace Plain

variable {i j k : Nat} {s t : List Char}

theorem append (hs : Plain i j s) (ht : Plain j k t) : Plain i k (s ++ t) := by
  unfold Plain at hs ht ⊢
  rw [List.map_append, Scan.run_append hs, ht]

theorem of_not_mem (h : ∀ c ∈ s, c ∉ Scan.watched) (i : Nat) : Plain i i s := by
  induction s with
  | nil => rfl
  | cons c s ih =>
      obtain ⟨hc, hs⟩ := List.forall_mem_cons.mp h
      exact Scan.run_cons.mpr ⟨_, (Scan.Step.quiet i hc).eq_some, ih hs⟩

theorem quote_not_mem (h : Plain i j s) : '\'' ∉ s := by
  intro hmem
  exact Scan.not_mem_of_run h (by decide) (List.mem_map_of_mem hmem)

/-- One text after another. -/
theorem followedBy {a b : String} (ha : Plain i j a.toList) (hb : Plain j k b.toList) :
    Plain i k (a ++ b).toList := by
  rw [String.toList_append]
  exact ha.append hb

/-- Texts with the same one between any two of them. -/
theorem intercalate {sep : String} (hsep : Plain i i sep.toList) {ss : List String}
    (h : ∀ s ∈ ss, Plain i i s.toList) : Plain i i (sep.intercalate ss).toList := by
  induction ss with
  | nil => rfl
  | cons s ss ih =>
      obtain ⟨hs, hss⟩ := List.forall_mem_cons.mp h
      cases ss with
      | nil => simpa using hs
      | cons s' ss =>
          rw [String.intercalate_cons_cons]
          exact (hs.followedBy hsep).followedBy (ih hss)

/-- Texts one after another. -/
theorem join {ss : List String} (h : ∀ s ∈ ss, Plain i i s.toList) :
    Plain i i (String.join ss).toList := by
  induction ss with
  | nil => rfl
  | cons s ss ih =>
      obtain ⟨hs, hss⟩ := List.forall_mem_cons.mp h
      rw [String.join_cons]
      exact hs.followedBy (ih hss)

end Plain

/-- A name of letters, digits and underscores. -/
def IsWord (name : String) : Prop := ∀ c ∈ name.toList, continuesIdentifier c = true

instance (name : String) : Decidable (IsWord name) :=
  List.decidableBAll (continuesIdentifier · = true) name.toList

/-- A name is plain. -/
theorem IsWord.plain {name : String} (h : IsWord name) (i : Nat) : Plain i i name.toList :=
  .of_not_mem (fun c hc => not_mem_watched (by decide) (h c hc)) i

theorem Digits.plain {s : List Char} (h : Digits s) (i : Nat) : Plain i i s := by
  have hkind : Scan.watched.all (!Char.isDigit ·) = true := rfl
  exact .of_not_mem (fun c hc => not_mem_watched hkind (h c hc)) i

/-- A number is plain: its sign, if it has one, stands before a digit. -/
theorem plain_number (negative : Bool) {s : List Char} (hs : Digits s) (hne : s ≠ []) (i : Nat) :
    Plain i i (signChars negative ++ s) := by
  cases negative with
  | false => exact hs.plain i
  | true =>
      obtain ⟨d, s, rfl⟩ := List.exists_cons_of_ne_nil hne
      obtain ⟨hd, hs⟩ := List.forall_mem_cons.mp hs
      have hsign : Scan.step ⟨i, false⟩ (.char '-') = some ⟨i, true⟩ := rfl
      have hdigit : Scan.step ⟨i, true⟩ (.char d) = some ⟨i, false⟩ := by simp [Scan.step, hd]
      exact Scan.run_cons.mpr ⟨_, hsign, Scan.run_cons.mpr ⟨_, hdigit, Digits.plain hs i⟩⟩

theorem plain_toString_int (n : Int) (i : Nat) : Plain i i (toString n).toList := by
  rw [toList_toString_int]
  exact plain_number _ (digits_toString _) (toList_toString_ne_nil _) i

/-- A real is plain, in its exponent too. -/
theorem RealText.Proper.plain {r : RealText} (h : r.Proper) (i : Nat) : Plain i i r.chars := by
  obtain ⟨negative, whole, fraction, exponent⟩ := r
  have hwhole : Plain i i (signChars negative ++ whole) :=
    plain_number negative h.whole h.whole_ne_nil i
  have hpoint : Plain i i (point ⟨negative, whole, fraction, exponent⟩) := by
    cases fraction with
    | none => rfl
    | some s => exact Plain.append (s := ['.']) rfl ((h.fraction s rfl).plain i)
  have hpower : Plain i i (power ⟨negative, whole, fraction, exponent⟩) := by
    cases exponent with
    | none => rfl
    | some n => exact Plain.append (s := ['e']) rfl (plain_toString_int n i)
  rw [chars, ← List.append_assoc]
  exact hwhole.append (hpoint.append hpower)

theorem Double.plain_literal (x : Double) (i : Nat) : Plain i i x.literal.toList := by
  by_cases hx : x.isFinite = true
  · obtain ⟨r, hr, hchars⟩ := x.exists_realText hx
    rw [hchars]
    exact hr.plain i
  · rw [Double.literal, if_neg hx]
    exact IsWord.plain (by decide) i

/-! ## Redaction -/

/-- The second text is the first one with its literals emptied, and the scan goes over both from one
depth to another. -/
def Redacts (i j : Nat) (s t : String) : Prop :=
  ∃ ps, Cuts s.toList ps ∧ Cuts t.toList (ps.map Piece.blank) ∧
    Scan.run ⟨i, false⟩ ps = some ⟨j, false⟩

/-- A text that does not begin with a literal, so that it can stand behind one. -/
def Unquoted (s : String) : Prop := s.toList.head? ≠ some '\''

theorem Unquoted.of_plain {i j : Nat} {s : String} (h : Plain i j s.toList) : Unquoted s := by
  intro hhead
  exact h.quote_not_mem (List.mem_of_mem_head? hhead)

/-- Where a text with something behind it begins. -/
theorem Unquoted.append {s : String} (hs : Unquoted s) (hne : s ≠ "") (t : String) :
    Unquoted (s ++ t) := by
  have hlist : s.toList ≠ [] := by simpa using hne
  unfold Unquoted at hs ⊢
  rwa [String.toList_append, List.head?_append_of_ne_nil _ hlist]

/-- A plain text is its own redaction. -/
theorem Plain.redacts {i j : Nat} {s : String} (h : Plain i j s.toList) : Redacts i j s s := by
  refine ⟨s.toList.map .char, cuts_plain h.quote_not_mem, ?_, h⟩
  rw [List.map_map]
  exact cuts_plain h.quote_not_mem

/-- The literal of a text is redacted to the literal of the empty text. -/
theorem redacts_quoted (s : String) (i : Nat) : Redacts i i (quoted s) (quoted "") :=
  ⟨[.literal s.toList], cuts_quoted s, cuts_quoted "", rfl⟩

namespace Redacts

variable {i j k l : Nat} {s t s' t' : String}

/-- One text after another. -/
theorem append (h : Redacts i j s t) (h' : Redacts j k s' t') (hs : Unquoted s')
    (ht : Unquoted t') : Redacts i k (s ++ s') (t ++ t') := by
  obtain ⟨ps, hcuts, hblank, hrun⟩ := h
  obtain ⟨qs, hcuts', hblank', hrun'⟩ := h'
  refine ⟨ps ++ qs, ?_, ?_, ?_⟩
  · rw [String.toList_append]
    exact hcuts.append hcuts' hs
  · rw [String.toList_append, List.map_append]
    exact hblank.append hblank' ht
  · rw [Scan.run_append hrun, hrun']

/-- A text behind a plain one may begin with a literal. -/
theorem plain_append {p : String} (hp : Plain i j p.toList) (h : Redacts j k s t) :
    Redacts i k (p ++ s) (p ++ t) := by
  obtain ⟨ps, hcuts, hblank, hrun⟩ := h
  have hquote := hp.quote_not_mem
  refine ⟨p.toList.map .char ++ ps, ?_, ?_, ?_⟩
  · rw [String.toList_append]
    exact .plain_append hquote hcuts
  · rw [String.toList_append, List.map_append, List.map_map]
    exact .plain_append hquote hblank
  · rw [Scan.run_append hp, hrun]

theorem append_plain {p : String} (h : Redacts i j s t) (hp : Plain j k p.toList) :
    Redacts i k (s ++ p) (t ++ p) :=
  h.append hp.redacts (.of_plain hp) (.of_plain hp)

/-- Two texts with a plain one between them. -/
theorem join {p : String} (h : Redacts i j s t) (hp : Plain j k p.toList) (hne : p ≠ "")
    (h' : Redacts k l s' t') : Redacts i l (s ++ p ++ s') (t ++ p ++ t') := by
  have hunquoted := Unquoted.of_plain hp
  rw [String.append_assoc, String.append_assoc]
  exact h.append (plain_append hp h') (hunquoted.append hne s') (hunquoted.append hne t')

/-- The same inside of further parentheses. -/
theorem deepen (h : Redacts i j s t) (d : Nat) : Redacts (i + d) (j + d) s t := by
  obtain ⟨ps, hcuts, hblank, hrun⟩ := h
  exact ⟨ps, hcuts, hblank, Scan.run_deepen hrun d⟩

/-- The same in parentheses. -/
theorem parens (h : Redacts 0 0 s t) : Redacts 0 0 ("(" ++ s ++ ")") ("(" ++ t ++ ")") := by
  have hopening : Plain 0 1 "(".toList := by decide
  have hclosing : Plain 1 0 ")".toList := by decide
  exact (plain_append hopening (h.deepen 1)).append_plain hclosing

/-- The redaction of a text is empty only where the text is. -/
theorem isEmpty_eq (h : Redacts i j s t) : s.isEmpty = t.isEmpty := by
  obtain ⟨ps, hcuts, hblank, -⟩ := h
  -- Both are empty exactly if there is no piece.
  rw [Bool.eq_iff_iff, String.isEmpty_iff, String.isEmpty_iff]
  constructor
  · rintro rfl
    have hps : [] = ps := Option.some.inj hcuts.eq_some
    subst hps
    exact String.toList_eq_nil_iff.mp (pieces?_eq_nil hblank.eq_some)
  · rintro rfl
    have hps : [] = ps.map Piece.blank := Option.some.inj hblank.eq_some
    have hps : ps = [] := List.map_eq_nil_iff.mp hps.symm
    subst hps
    exact String.toList_eq_nil_iff.mp (pieces?_eq_nil hcuts.eq_some)

/-- Texts with the same plain one between any two of them. -/
theorem intercalate {sep : String} (hsep : Plain i i sep.toList) (hne : sep ≠ "")
    {ss ts : List String} (h : List.Forall₂ (Redacts i i) ss ts) :
    Redacts i i (sep.intercalate ss) (sep.intercalate ts) := by
  induction h with
  | nil => exact Plain.redacts rfl
  | @cons s t ss ts hst hrest ih =>
      cases hrest with
      | nil => simpa using hst
      | cons hst' hrest' =>
          rw [String.intercalate_cons_cons, String.intercalate_cons_cons]
          exact hst.join hsep hne ih

/-- Texts of the same things. -/
theorem intercalate_map {α : Type} {sep : String} (hsep : Plain i i sep.toList) (hne : sep ≠ "")
    {f g : α → String} {as : List α} (h : ∀ a ∈ as, Redacts i i (f a) (g a)) :
    Redacts i i (sep.intercalate (as.map f)) (sep.intercalate (as.map g)) := by
  refine .intercalate hsep hne ?_
  rw [List.forall₂_map_left_iff, List.forall₂_map_right_iff, List.forall₂_same]
  exact h

end Redacts

/-- The first text is one statement, and outside of literals the second one is the same. -/
def RedactsStatement (s t : String) : Prop :=
  (∃ ps, Cuts s.toList ps ∧ OneStatement ps) ∧ outside? s = outside? t

theorem Piece.blank_blank (p : Piece) : p.blank.blank = p.blank := by
  cases p <;> rfl

/-- A text without open parentheses is one statement if it is ended by a semicolon. -/
theorem Redacts.statement {s t : String} (h : Redacts 0 0 s t) :
    RedactsStatement (s ++ ";") (t ++ ";") := by
  obtain ⟨ps, hcuts, hblank, hrun⟩ := h
  have hend : Cuts ";".toList [.char ';'] := cuts_plain (by decide)
  have hs : Cuts (s ++ ";").toList (ps ++ [.char ';']) := by
    rw [String.toList_append]
    exact hcuts.append hend (by decide)
  have ht : Cuts (t ++ ";").toList (ps.map Piece.blank ++ [.char ';']) := by
    rw [String.toList_append]
    exact hblank.append hend (by decide)
  refine ⟨⟨_, hs, Scan.oneStatement hrun⟩, ?_⟩
  have hblanks : (ps.map Piece.blank).map Piece.blank = ps.map Piece.blank := by
    rw [List.map_map]
    exact List.map_congr_left fun p _ => p.blank_blank
  rw [outside?, outside?, hs.eq_some, ht.eq_some, Option.map_some, Option.map_some, List.map_append,
    List.map_append, hblanks]

/-- The same where the semicolon comes with the last parenthesis. -/
theorem Redacts.closed {s t : String} (h : Redacts 0 1 s t) :
    RedactsStatement (s ++ ");") (t ++ ");") := by
  have hclosing : Plain 1 0 ")".toList := by decide
  have hend : (");" : String) = ")" ++ ";" := rfl
  rw [hend, ← String.append_assoc, ← String.append_assoc]
  exact (h.append_plain hclosing).statement

/-! ## Texts that may fail -/

/-- Two results that are related, or one error. -/
inductive Alike {ε α β : Type} (R : α → β → Prop) : Except ε α → Except ε β → Prop
  | ok {a : α} {b : β} (h : R a b) : Alike R (.ok a) (.ok b)
  | error (e : ε) : Alike R (.error e) (.error e)

namespace Alike

variable {ε α β γ δ : Type} {R : α → β → Prop} {S : γ → δ → Prop}

theorem bind {x : Except ε α} {y : Except ε β} (h : Alike R x y) {f : α → Except ε γ}
    {g : β → Except ε δ} (hnext : ∀ a b, R a b → Alike S (f a) (g b)) :
    Alike S (x >>= f) (y >>= g) := by
  cases h with
  | ok h => exact hnext _ _ h
  | error e => exact .error e

theorem map {x : Except ε α} {y : Except ε β} (h : Alike R x y) {f : α → γ} {g : β → δ}
    (hnext : ∀ a b, R a b → S (f a) (g b)) : Alike S (x.map f) (y.map g) := by
  cases h with
  | ok h => exact .ok (hnext _ _ h)
  | error e => exact .error e

end Alike

end SqlStore
