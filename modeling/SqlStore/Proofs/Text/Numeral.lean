/-
# The text of numbers

An integer is written as a sign and digits.  A real has a point or an exponent besides, so that its
text is never that of an integer.  No value of a digit matters here: the shape of the text follows
from how the digits are laid out, whichever digits they are.

* `RealText` : the parts of a real's text, in order;
* `Double.realText`, `Double.toList_text` : the parts that a real is written as;
* `Double.proper_realText` : they are those of a real.
-/
import SqlStore.Value

namespace SqlStore

/-! ## Digits -/

/-- A list of decimal digits, possibly empty. -/
def Digits (s : List Char) : Prop := ∀ c ∈ s, c.isDigit = true

/-- The sign in front of a number. -/
def signChars (negative : Bool) : List Char := if negative then ['-'] else []

/-- A natural is written in digits. -/
theorem digits_toString (n : Nat) : Digits (toString n).toList := by
  intro c hc
  have h : c ∈ Nat.toDigits 10 n := by simpa using hc
  exact Nat.isDigit_of_mem_toDigits (by decide) (by decide) h

/-- A natural has at least one digit. -/
theorem toList_toString_ne_nil (n : Nat) : (toString n).toList ≠ [] := by
  simp

/-- An integer is its sign and the digits of its absolute value. -/
theorem toList_toString_int (n : Int) :
    (toString n).toList = signChars (n < 0) ++ (toString n.natAbs).toList := by
  cases n with
  | ofNat m =>
      have h : ¬ ((m : Int) < 0) := by omega
      simp [signChars, h, Int.toString_eq_repr, Int.repr]
  | negSucc m =>
      have h : Int.negSucc m < 0 := Int.negSucc_lt_zero m
      simp [signChars, h, Int.toString_eq_repr, Int.repr]

theorem Digits.append {s t : List Char} (hs : Digits s) (ht : Digits t) : Digits (s ++ t) :=
  fun c hc => (List.mem_append.mp hc).elim (hs c) (ht c)

theorem digits_replicate_zero (n : Nat) : Digits (List.replicate n '0') := by
  intro c hc
  rw [List.eq_of_mem_replicate hc]
  rfl

/-! ## Characters of numbers -/

/-- A character that the text of a number can have. -/
def isNumeral (c : Char) : Bool := c.isDigit || c == '-' || c == '.' || c == 'e'

theorem isNumeral_of_isDigit {c : Char} (hc : c.isDigit = true) : isNumeral c = true := by
  simp [isNumeral, hc]

theorem isNumeral_signChars (negative : Bool) : ∀ c ∈ signChars negative, isNumeral c = true := by
  intro c hc
  cases negative with
  | false => cases hc
  | true =>
      rw [List.mem_singleton.mp hc]
      rfl

/-- The text of an integer is made of such characters. -/
theorem isNumeral_toString (n : Int) : ∀ c ∈ (toString n).toList, isNumeral c = true := by
  rw [toList_toString_int]
  intro c hc
  rcases List.mem_append.mp hc with hc | hc
  · exact isNumeral_signChars _ c hc
  · exact isNumeral_of_isDigit (digits_toString _ c hc)

/-! ## Digits of a decimal -/

namespace Decimal

/-- A grid point has the digits of its coefficient, up to zeros at the end. -/
theorem digits_ofGrid (coefficient : Nat) (exponent : Int) :
    Digits (ofGrid coefficient exponent).digits := by
  intro c hc
  have hmem : c ∈ (toString coefficient).toList.reverse.dropWhile (· == '0') :=
    List.mem_reverse.mp hc
  exact digits_toString coefficient c
    (List.mem_reverse.mp ((List.dropWhile_suffix _).subset hmem))

/-- The shortest decimal of a double consists of digits. -/
theorem digits_shortest (tie : TieRule) (x : Double) : Digits (shortest tie x).digits := by
  unfold shortest
  extract_lets range point attempt
  cases h : (List.range 17).findSome? (fun n => attempt (n + 1)) with
  | none =>
      intro c hc
      rw [List.mem_singleton.mp hc]
      rfl
  | some d =>
      obtain ⟨n, -, hn⟩ := List.exists_of_findSome?_eq_some h
      obtain ⟨coefficient, -, rfl⟩ := Option.map_eq_some_iff.mp hn
      exact digits_ofGrid coefficient _

end Decimal

/-! ## The shape of a real -/

/-- The text of a real in parts: sign, digits, digits after a point, decimal exponent. -/
structure RealText where
  negative : Bool
  whole : List Char
  fraction : Option (List Char)
  exponent : Option Int

namespace RealText

/-- The point and what follows it. -/
def point (r : RealText) : List Char := r.fraction.elim [] ('.' :: ·)

/-- The exponent with its mark. -/
def power (r : RealText) : List Char := r.exponent.elim [] fun n => 'e' :: (toString n).toList

/-- The parts in order. -/
def chars (r : RealText) : List Char := signChars r.negative ++ (r.whole ++ (r.point ++ r.power))

/-- There is a digit before the point, and a point or an exponent that tells the real from an
integer. -/
structure Proper (r : RealText) : Prop where
  whole_ne_nil : r.whole ≠ []
  whole : Digits r.whole
  fraction : ∀ s ∈ r.fraction, Digits s
  marked : r.fraction.isSome ∨ r.exponent.isSome

/-- The text of a real is made of characters of numbers. -/
theorem isNumeral_chars {r : RealText} (h : r.Proper) :
    ∀ c ∈ r.chars, isNumeral c = true := by
  obtain ⟨negative, whole, fraction, exponent⟩ := r
  intro c hc
  simp only [chars, List.mem_append] at hc
  rcases hc with hc | hc | hc | hc
  · exact isNumeral_signChars negative c hc
  · exact isNumeral_of_isDigit (h.whole c hc)
  · cases fraction with
    | none => cases hc
    | some s =>
        rcases List.mem_cons.mp hc with rfl | hc
        · rfl
        · exact isNumeral_of_isDigit (h.fraction s rfl c hc)
  · cases exponent with
    | none => cases hc
    | some n =>
        rcases List.mem_cons.mp hc with rfl | hc
        · rfl
        · exact isNumeral_toString n c hc

end RealText

namespace Decimal

/-- The parts of a decimal written out. -/
def positionalText (negative : Bool) (d : Decimal) : RealText :=
  if d.point ≤ 0 then
    ⟨negative, ['0'], some (List.replicate (-d.point).toNat '0' ++ d.digits), none⟩
  else if d.digits.length ≤ d.point.toNat then
    ⟨negative, d.digits ++ List.replicate (d.point.toNat - d.digits.length) '0', some ['0'], none⟩
  else
    ⟨negative, d.digits.take d.point.toNat, some (d.digits.drop d.point.toNat), none⟩

/-- The parts of a decimal with an exponent: one digit before the point, perhaps more after it. -/
def scientificText (negative : Bool) (d : Decimal) : RealText :=
  match d.digits with
  | [] => ⟨negative, ['0'], none, some (d.point - 1)⟩
  | [c] => ⟨negative, [c], none, some (d.point - 1)⟩
  | c :: rest => ⟨negative, [c], some rest, some (d.point - 1)⟩

theorem chars_positionalText (negative : Bool) (d : Decimal) :
    (d.positionalText negative).chars = signChars negative ++ d.positional.toList := by
  rw [positional, positionalText]
  split
  · simp [RealText.chars, RealText.point, RealText.power]
  · split <;> simp [RealText.chars, RealText.point, RealText.power]

theorem chars_scientificText (negative : Bool) (d : Decimal) :
    (d.scientificText negative).chars = signChars negative ++ d.scientific.toList := by
  rw [scientific, scientificText]
  match d.digits with
  | [] | [c] | c :: b :: rest => simp [RealText.chars, RealText.point, RealText.power]

theorem proper_positionalText (negative : Bool) {d : Decimal} (hd : Digits d.digits) :
    (d.positionalText negative).Proper := by
  rw [positionalText]
  split
  · refine ⟨by simp, digits_replicate_zero 1, ?_, by simp⟩
    rintro s ⟨⟩
    exact (digits_replicate_zero _).append hd
  · rename_i hpoint
    split
    · rename_i hcount
      refine ⟨?_, hd.append (digits_replicate_zero _), ?_, by simp⟩
      · rw [← List.length_pos_iff, List.length_append, List.length_replicate]
        omega
      · rintro s ⟨⟩
        exact digits_replicate_zero 1
    · rename_i hcount
      refine ⟨?_, fun c hc => hd c (List.mem_of_mem_take hc), ?_, by simp⟩
      · rw [← List.length_pos_iff, List.length_take]
        omega
      · rintro s ⟨⟩ c hc
        exact hd c (List.mem_of_mem_drop hc)

theorem proper_scientificText (negative : Bool) {d : Decimal} (hd : Digits d.digits) :
    (d.scientificText negative).Proper := by
  rw [scientificText]
  split
  · exact ⟨by simp, digits_replicate_zero 1, by simp, by simp⟩
  · rename_i c hc
    rw [hc] at hd
    exact ⟨by simp, hd, by simp, by simp⟩
  · rename_i c rest _ hc
    rw [hc] at hd
    refine ⟨by simp, fun a ha => hd a ?_, ?_, by simp⟩
    · rw [List.mem_singleton.mp ha]
      exact List.mem_cons_self
    · rintro s ⟨⟩ a ha
      exact hd a (List.mem_cons_of_mem c ha)

end Decimal

namespace Double

/-- The parts of a finite real. -/
def realText (layout : DecimalLayout) (x : Double) : RealText :=
  if x.magnitude = 0 then ⟨x.negative, ['0'], some ['0'], none⟩
  else
    let d := Decimal.shortest layout.tie x
    if layout.lowest < d.point && d.point ≤ layout.highest + 1 then d.positionalText x.negative
    else d.scientificText x.negative

/-- A real is written as its parts. -/
theorem toList_text (layout : DecimalLayout) (x : Double) :
    (x.text layout).toList = (x.realText layout).chars := by
  have hsign (unsigned : String) :
      (if x.negative then "-" ++ unsigned else unsigned).toList
        = signChars x.negative ++ unsigned.toList := by
    cases x.negative <;> simp [signChars]
  simp only [text, realText, hsign]
  split
  · rfl
  · split
    · rw [Decimal.chars_positionalText]
    · rw [Decimal.chars_scientificText]

theorem proper_realText (layout : DecimalLayout) (x : Double) : (x.realText layout).Proper := by
  have hd := Decimal.digits_shortest layout.tie x
  rw [realText]
  split
  · refine ⟨by simp, digits_replicate_zero 1, ?_, by simp⟩
    rintro s ⟨⟩
    exact digits_replicate_zero 1
  · extract_lets d
    split
    · exact Decimal.proper_positionalText x.negative hd
    · exact Decimal.proper_scientificText x.negative hd

/-- The literal of a finite real is its parts. -/
theorem exists_realText (x : Double) (hx : x.isFinite = true) :
    ∃ r : RealText, r.Proper ∧ x.literal.toList = r.chars := by
  refine ⟨x.realText literalLayout, x.proper_realText literalLayout, ?_⟩
  rw [literal, if_pos hx, toList_text]

end Double

end SqlStore
