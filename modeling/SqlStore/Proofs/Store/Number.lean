/-
# Numbers read back from their text

A number is read with its blanks off, sign first, then digits with or without a point, then an
exponent.  The text of an integer is read as that integer.  The digits of a real are those of its
shortest decimal with zeros around them, and that decimal rounds to the real.

* `RealText.coefficient`, `RealText.place` : the digits of a real and the place of the last one;
* `RealText.numberOfText?_eq` : what the parts of a real are read as;
* `Double.ofDecimal_realText` : the parts that a real is written as stand for that real;
* `numberOfText?_toString`, `Double.numberOfText?_text` : integers and reals read back.
-/
import SqlStore.Store.Affinity
import SqlStore.Proofs.Double.Shortest
import SqlStore.Proofs.Text.Literal

namespace SqlStore

/-! ## Blanks around a number -/

theorem isBlank_of_isNumeral {c : Char} (hc : isNumeral c = true) : isBlank c = false := by
  simp only [isNumeral, Bool.or_eq_true, beq_iff_eq] at hc
  rcases hc with ((hc | rfl) | rfl) | rfl
  · simp only [Char.isDigit, Bool.and_eq_true, decide_eq_true_eq] at hc
    have hlow : 48 ≤ c.val.toNat := hc.1
    have hspace : c ≠ ' ' := by
      rintro rfl
      exact absurd hlow (by decide)
    have hreturn : ¬ c ≤ '\r' := by
      intro h
      have hhigh : c.val.toNat ≤ 13 := h
      omega
    simp [isBlank, hspace, hreturn]
  · decide
  · decide
  · decide

/-- The text of a number has no blanks to take off. -/
theorem trim_eq {s : List Char} (h : ∀ c ∈ s, isNumeral c = true) :
    ((s.dropWhile isBlank).reverse.dropWhile isBlank).reverse = s := by
  have hkeep (t : List Char) (ht : ∀ c ∈ t, isNumeral c = true) : t.dropWhile isBlank = t := by
    cases t with
    | nil => rfl
    | cons c t =>
        rw [List.dropWhile_cons, isBlank_of_isNumeral (ht c List.mem_cons_self)]
        rfl
  rw [hkeep s h, hkeep s.reverse fun c hc => h c (List.mem_reverse.mp hc), List.reverse_reverse]

/-! ## Integers -/

/-- A text that starts with a digit has no sign of its own. -/
theorem splitSign_signChars {s : List Char} (hs : ∀ c ∈ s.head?, c.isDigit = true)
    (negative : Bool) : splitSign (signChars negative ++ s) = (negative, s) := by
  cases negative with
  | true => rfl
  | false =>
      rw [signChars, if_neg (by decide), List.nil_append, splitSign.eq_def]
      split
      · exact absurd (hs '-' rfl) (by decide)
      · exact absurd (hs '+' rfl) (by decide)
      · rfl

theorem digitsValue_toString (n : Nat) : digitsValue (toString n).toList = n := by
  show Nat.ofDigitChars 10 (toString n).toList 0 = n
  simp

/-- An integer is its sign and its absolute value. -/
theorem signed_natAbs (n : Int) :
    (if decide (n < 0) = true then -(n.natAbs : Int) else n.natAbs) = n := by
  by_cases hn : n < 0
  · simp only [hn, decide_true, if_true]
    omega
  · simp only [hn, decide_false, Bool.false_eq_true, if_false]
    omega

/-- The text of an integer is read as that integer. -/
theorem numberOfText?_toString (n : Int64) : numberOfText? (toString n) = some (.integer n) := by
  obtain ⟨htake, hdrop⟩ := span_toString n.toInt.natAbs
  have htext : (toString n).toList
      = signChars (n.toInt < 0) ++ (toString n.toInt.natAbs).toList := toList_toString_int n.toInt
  have hfits : Int64.minValue.toInt ≤ n.toInt ∧ n.toInt ≤ Int64.maxValue.toInt :=
    ⟨n.minValue_le_toInt, n.toInt_le⟩
  have hnumeral : ∀ c ∈ (toString n).toList, isNumeral c = true := isNumeral_toString n.toInt
  rw [numberOfText?, trim_eq hnumeral, htext, splitSign_signChars (head?_toString _)]
  simp only [htake, hdrop, Option.getD_none, List.append_nil, digitsValue_toString, signed_natAbs]
  rw [if_neg (by simp)]
  simp only [exponent?, hfits.1, hfits.2, Option.isNone_none, List.isEmpty_nil, decide_true,
    Bool.and_self, if_true, Int64.ofInt_toInt]

/-! ## The parts of a real -/

namespace RealText

/-- The digits of a real as one natural. -/
def coefficient (r : RealText) : Nat := Nat.ofDigitChars 10 (r.whole ++ r.fraction.getD []) 0

/-- The power of ten that the last digit of a real counts. -/
def place (r : RealText) : Int := r.exponent.getD 0 - (r.fraction.getD []).length

/-- An exponent within the cap is read back. -/
theorem exponent?_power (r : RealText) (hr : ∀ n ∈ r.exponent, n.natAbs ≤ 10000) :
    exponent? r.power = some (r.exponent.getD 0) := by
  obtain ⟨negative, whole, fraction, exponent⟩ := r
  cases exponent with
  | none => rfl
  | some n =>
      have hcap : n.natAbs ≤ 10000 := hr n rfl
      have hdigits : ((toString n.natAbs).toList.isEmpty
          || !(toString n.natAbs).toList.all Char.isDigit) = false := by
        rw [List.all_eq_true.mpr (digits_toString n.natAbs)]
        simp
      have hsize : min (digitsValue (toString n.natAbs).toList : Int) 10000 = n.natAbs := by
        rw [digitsValue_toString]
        omega
      simp only [power, Option.elim_some, exponent?, toList_toString_int,
        splitSign_signChars (head?_toString _), hdigits, hsize, signed_natAbs, Option.getD_some,
        beq_self_eq_true, Bool.true_or, if_true, Bool.false_eq_true, if_false]

/-- What the parts of a real are read as. -/
theorem numberOfText?_eq {s : String} {r : RealText} (hs : s.toList = r.chars) (h : r.Proper)
    (hr : ∀ n ∈ r.exponent, n.natAbs ≤ 10000) :
    numberOfText? s = some (.real (.ofDecimal r.negative r.coefficient r.place)) := by
  have hhead := h.whole.head? (r.point ++ r.power) h.whole_ne_nil
  obtain ⟨htake, hdrop⟩ := span_digits h.whole _ r.head?_point_power
  have hexponent := exponent?_power r hr
  rw [numberOfText?, hs, trim_eq (isNumeral_chars h), chars, splitSign_signChars hhead]
  simp only [htake, hdrop]
  obtain ⟨negative, whole, fraction, exponent⟩ := r
  have hne (t : List Char) : ¬ (whole ++ t).isEmpty = true := by
    simp [h.whole_ne_nil]
  cases fraction with
  | some digits =>
      have hpower : ∀ c ∈ (power ⟨negative, whole, some digits, exponent⟩).head?,
          c.isDigit = false := by
        cases exponent <;> simp [power]
      obtain ⟨htake', hdrop'⟩ := span_digits (h.fraction digits rfl) _ hpower
      simp only [point, Option.elim_some, List.cons_append, htake', hdrop', Option.getD_some]
      rw [if_neg (hne digits), hexponent]
      rfl
  | none =>
      -- Without a point there is an exponent, so the text is not taken for an integer.
      cases exponent with
      | none => exact absurd h.marked (by simp)
      | some n =>
          have hpower : power ⟨negative, whole, none, some n⟩ = 'e' :: (toString n).toList := rfl
          rw [hpower] at hexponent
          simp only [point, Option.elim_none, List.nil_append, hpower]
          split
          · rename_i hpoint
            exact absurd hpoint (by simp)
          · rw [Option.getD_none, if_neg (hne []), hexponent]
            rfl

/-! ## The digits of a decimal -/

/-- The digits of the real are those of the decimal with zeros around them, at the same places. -/
def Says (r : RealText) (d : Decimal) : Prop :=
  ∃ before after : Nat,
    r.whole ++ r.fraction.getD []
      = List.replicate before '0' ++ (d.digits ++ List.replicate after '0') ∧
    r.place + after = d.point - d.digits.length

/-- Zeros around the digits of a decimal do not change which interval it lies in. -/
theorem Says.admits {r : RealText} {d : Decimal} (h : r.Says d) {range : Decimal.Interval}
    (hd : range.Admits (Nat.ofDigitChars 10 d.digits 0) (d.point - d.digits.length)) :
    range.Admits r.coefficient r.place := by
  obtain ⟨before, after, hdigits, hplace⟩ := h
  have hvalue : r.coefficient = Nat.ofDigitChars 10 d.digits 0 * 10 ^ after := by
    rw [coefficient, hdigits, Nat.ofDigitChars_append, Nat.ofDigitChars_append,
      Nat.ofDigitChars_replicate_zero, Nat.ofDigitChars_replicate_zero, Nat.mul_zero, Nat.mul_comm]
  rw [← Decimal.Interval.admits_mul_pow _ _ after, ← hplace, Int.add_sub_cancel] at hd
  rw [hvalue]
  exact hd

end RealText

namespace Decimal

/-- Written out, a decimal has its sign and no exponent. -/
theorem signed_positionalText (negative : Bool) (d : Decimal) :
    (d.positionalText negative).negative = negative ∧
      (d.positionalText negative).exponent = none := by
  rw [positionalText]
  split
  · exact ⟨rfl, rfl⟩
  · split <;> exact ⟨rfl, rfl⟩

/-- With one digit before the point, the exponent is one less than the point. -/
theorem signed_scientificText (negative : Bool) (d : Decimal) :
    (d.scientificText negative).negative = negative ∧
      (d.scientificText negative).exponent = some (d.point - 1) := by
  rw [scientificText]
  split <;> exact ⟨rfl, rfl⟩

theorem says_positionalText (negative : Bool) (d : Decimal) :
    (d.positionalText negative).Says d := by
  rw [positionalText]
  split
  · refine ⟨(-d.point).toNat + 1, 0, by simp [List.replicate_succ], ?_⟩
    simp only [RealText.place, Option.getD_none, Option.getD_some, List.length_append,
      List.length_replicate]
    omega
  · rename_i hpoint
    split
    · rename_i hcount
      refine ⟨0, d.point.toNat - d.digits.length + 1, by simp [List.replicate_succ'], ?_⟩
      simp only [RealText.place, Option.getD_none, Option.getD_some, List.length_singleton]
      omega
    · rename_i hcount
      refine ⟨0, 0, by simp, ?_⟩
      simp only [RealText.place, Option.getD_none, Option.getD_some, List.length_drop]
      omega

theorem says_scientificText (negative : Bool) {d : Decimal} (hd : d.digits ≠ []) :
    (d.scientificText negative).Says d := by
  obtain ⟨digits, point⟩ := d
  cases digits with
  | nil => exact absurd rfl hd
  | cons c rest =>
      cases rest with
      | nil => exact ⟨0, 0, by simp [scientificText], by simp [scientificText, RealText.place]⟩
      | cons b rest =>
          refine ⟨0, 0, by simp [scientificText], ?_⟩
          simp only [scientificText, RealText.place, Option.getD_some, List.length_cons]
          omega

end Decimal

/-! ## Reals -/

namespace Double

/-- Zero times any power of ten. -/
theorem ofDecimal_zero (negative : Bool) (exponent : Int) :
    ofDecimal negative 0 exponent = ofMagnitude negative 0 := by
  have hden : 0 < 10 ^ (-exponent).toNat := Nat.pow_pos (by decide)
  rw [ofDecimal, ofUnits, Nat.zero_mul, Nat.zero_mul]
  congr 1
  have heven : nearestEven 0 (10 ^ (-exponent).toNat) = 0 := by
    rw [nearestEven, Nat.zero_div, Nat.zero_mod, if_pos (by omega)]
  have hscale : Nat.log2 0 - 52 = 0 := by decide
  rw [Nat.pow_eq, nearestMagnitude, Nat.zero_div]
  simp only [hscale, Nat.shiftLeft_zero, heven, Nat.zero_mul, Nat.add_zero, Nat.zero_min]

theorem negative_realText (layout : DecimalLayout) (x : Double) :
    (x.realText layout).negative = x.negative := by
  rw [realText]
  split
  · rfl
  · extract_lets d
    split
    · exact (Decimal.signed_positionalText x.negative d).1
    · exact (Decimal.signed_scientificText x.negative d).1

/-- The exponent of a real is within the cap. -/
theorem exponent_realText (layout : DecimalLayout) (x : Double) :
    ∀ n ∈ (x.realText layout).exponent, n.natAbs ≤ 10000 := by
  rw [realText]
  split
  · simp
  · rename_i hx
    extract_lets d
    have hpoint : -2000 ≤ d.point ∧ d.point ≤ 3000 := Decimal.shortest_point layout.tie hx
    split
    · rw [(Decimal.signed_positionalText x.negative d).2]
      simp
    · rw [(Decimal.signed_scientificText x.negative d).2]
      rintro n ⟨⟩
      omega

/-- The parts that a real is written as stand for that real. -/
theorem ofDecimal_realText (layout : DecimalLayout) {x : Double} (hfinite : x.isFinite = true) :
    ofDecimal x.negative (x.realText layout).coefficient (x.realText layout).place = x := by
  -- Zero has no interval: its digits are zeros, whatever power of ten they count.
  by_cases hx : x.magnitude = 0
  · have hzero : (x.realText layout).coefficient = 0 := by
      rw [realText, if_pos hx]
      rfl
    have hmagnitude := x.ofMagnitude_magnitude
    rw [hx] at hmagnitude
    rw [hzero, ofDecimal_zero, hmagnitude]
  · have hdigits : (x.realText layout).Says (Decimal.shortest layout.tie x) := by
      simp only [realText, if_neg hx]
      split
      · exact Decimal.says_positionalText x.negative _
      · exact Decimal.says_scientificText x.negative (Decimal.shortest_digits_ne_nil layout.tie hx)
    exact ofDecimal_eq hfinite hx (hdigits.admits (Decimal.admits_shortest layout.tie hx))

/-- The text of a finite real is read as that real. -/
theorem numberOfText?_text (layout : DecimalLayout) {x : Double} (hfinite : x.isFinite = true) :
    numberOfText? (x.text layout) = some (.real x) := by
  rw [RealText.numberOfText?_eq (toList_text layout x) (proper_realText layout x)
    (exponent_realText layout x), negative_realText, ofDecimal_realText layout hfinite]

end Double

end SqlStore
