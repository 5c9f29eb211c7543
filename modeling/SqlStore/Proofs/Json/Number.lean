/-
# Numbers as a tree writes them

An integer is written without a leading zero, and so is a real: its digits begin with another digit
than zero, or with the zero before a point.  Either text is one lexeme of the lexer, and the lexeme
of an integer has the value of that integer.

* `RealText.Strict`, `Double.strict_realText` : the parts of a real, in every layout;
* `JsonLexer.IsNumber` : the texts that are read as one number;
* `JsonNumber.ofLexeme_toString` : the lexeme of an integer of at most sixty-four bits.
-/
import SqlStore.Json.Number
import SqlStore.Json.Lexer
import SqlStore.Proofs.Double.Shortest
import SqlStore.Proofs.Text.Literal

namespace SqlStore

/-! ## Leading digits -/

/-- The digits do not begin with a zero. -/
def Leads (s : List Char) : Prop := ∃ c rest, s = c :: rest ∧ c ≠ '0'

/-- A text of digits without a superfluous zero at its front. -/
def IsWhole (s : List Char) : Prop := Digits s ∧ (s = ['0'] ∨ Leads s)

theorem Leads.append {s : List Char} (h : Leads s) (t : List Char) : Leads (s ++ t) := by
  obtain ⟨c, rest, rfl, hc⟩ := h
  exact ⟨c, rest ++ t, rfl, hc⟩

/-- A positive number does not begin with a zero. -/
theorem leads_toDigits (n : Nat) (hn : 0 < n) : Leads (Nat.toDigits 10 n) := by
  induction n using Nat.strongRecOn with
  | ind n ih =>
      by_cases hsmall : n < 10
      · rw [Nat.toDigits_of_lt_base hsmall]
        refine ⟨_, [], rfl, fun h => ?_⟩
        have hvalue := Nat.toNat_digitChar_of_lt_ten hsmall
        rw [h] at hvalue
        have hzero : '0'.toNat = 48 := rfl
        omega
      · rw [Nat.toDigits_of_base_le (by decide) (by omega)]
        exact (ih (n / 10) (by omega) (by omega)).append _

theorem leads_toString {n : Nat} (hn : 0 < n) : Leads (toString n).toList := by
  simpa using leads_toDigits n hn

/-- A natural is written without a superfluous zero. -/
theorem isWhole_toString (n : Nat) : IsWhole (toString n).toList := by
  refine ⟨digits_toString n, ?_⟩
  rcases Nat.eq_zero_or_pos n with rfl | hn
  · exact .inl (by simp)
  · exact .inr (leads_toString hn)

/-- Zeros at the end can go without touching the digit at the front. -/
theorem Leads.trim {s : List Char} (h : Leads s) :
    Leads (s.reverse.dropWhile (· == '0')).reverse := by
  obtain ⟨c, rest, rfl, hc⟩ := h
  rw [List.reverse_cons, List.dropWhile_append]
  split
  · exact ⟨c, [], by simp [hc], hc⟩
  · exact ⟨c, _, by rw [List.reverse_append]; rfl, hc⟩

namespace Decimal

/-- The digits of zero, or digits that begin with another one. -/
def Normal (d : Decimal) : Prop := d = ⟨['0'], 1⟩ ∨ Leads d.digits

/-- The shortest decimal of a positive double has no superfluous zero. -/
theorem normal_shortest (tie : TieRule) {x : Double} (hx : x.magnitude ≠ 0) :
    (shortest tie x).Normal := by
  obtain ⟨coefficient, exponent, hshortest, hadmits, -⟩ := exists_shortest tie hx
  rw [hshortest]
  exact .inr (leads_toString (hadmits.coefficient_pos hx)).trim

end Decimal

/-! ## The shape of a real -/

namespace RealText

/-- The digits before the point are those of a whole number, and there are some after it. -/
structure Strict (r : RealText) : Prop where
  whole : IsWhole r.whole
  fraction : ∀ s ∈ r.fraction, Digits s ∧ s ≠ []

end RealText

namespace Decimal

theorem isWhole_zero : IsWhole ['0'] := ⟨digits_replicate_zero 1, .inl rfl⟩

theorem Leads.ne_nil {s : List Char} (h : Leads s) : s ≠ [] := by
  obtain ⟨c, rest, rfl, -⟩ := h
  exact List.cons_ne_nil c rest

/-- A decimal without superfluous zeros is written out without them. -/
theorem Normal.strict_positionalText {d : Decimal} (h : d.Normal) (hd : Digits d.digits)
    (negative : Bool) : (d.positionalText negative).Strict := by
  rcases h with rfl | hleads
  · refine ⟨isWhole_zero, ?_⟩
    rintro s ⟨⟩
    exact ⟨digits_replicate_zero 1, by simp⟩
  rw [positionalText]
  split
  · refine ⟨isWhole_zero, ?_⟩
    rintro s ⟨⟩
    exact ⟨(digits_replicate_zero _).append hd,
      List.append_ne_nil_of_right_ne_nil _ (Leads.ne_nil hleads)⟩
  · rename_i hpoint
    split
    · refine ⟨⟨hd.append (digits_replicate_zero _), .inr (hleads.append _)⟩, ?_⟩
      rintro s ⟨⟩
      exact ⟨digits_replicate_zero 1, by simp⟩
    · rename_i hcount
      refine ⟨⟨fun c hc => hd c (List.mem_of_mem_take hc), .inr ?_⟩, ?_⟩
      · obtain ⟨c, rest, hdigits, hc⟩ := hleads
        obtain ⟨k, hk⟩ : ∃ k, d.point.toNat = k + 1 := ⟨d.point.toNat - 1, by omega⟩
        exact ⟨c, rest.take k, by rw [hdigits, hk]; rfl, hc⟩
      · rintro s ⟨⟩
        refine ⟨fun c hc => hd c (List.mem_of_mem_drop hc), ?_⟩
        rw [← List.length_pos_iff, List.length_drop]
        omega

/-- So is a decimal with an exponent. -/
theorem Normal.strict_scientificText {d : Decimal} (h : d.Normal) (hd : Digits d.digits)
    (negative : Bool) : (d.scientificText negative).Strict := by
  rcases h with rfl | ⟨c, rest, hdigits, hc⟩
  · exact ⟨isWhole_zero, by simp [scientificText]⟩
  rw [hdigits] at hd
  have hwhole : IsWhole [c] := by
    refine ⟨fun a ha => hd a ?_, .inr ⟨c, [], rfl, hc⟩⟩
    rw [List.mem_singleton.mp ha]
    exact List.mem_cons_self
  rw [scientificText, hdigits]
  cases rest with
  | nil => exact ⟨hwhole, by simp⟩
  | cons b rest =>
      refine ⟨hwhole, ?_⟩
      rintro s ⟨⟩
      exact ⟨fun a ha => hd a (List.mem_cons_of_mem c ha), by simp⟩

end Decimal

/-- A finite real is written strictly in every layout. -/
theorem Double.strict_realText (layout : DecimalLayout) (x : Double) :
    (x.realText layout).Strict := by
  have hd := Decimal.digits_shortest layout.tie x
  rw [realText]
  split
  · refine ⟨Decimal.isWhole_zero, ?_⟩
    rintro s ⟨⟩
    exact ⟨digits_replicate_zero 1, by simp⟩
  · rename_i hx
    have hnormal := Decimal.normal_shortest layout.tie hx
    extract_lets d
    split
    · exact hnormal.strict_positionalText hd x.negative
    · exact hnormal.strict_scientificText hd x.negative

/-! ## One lexeme -/

namespace JsonLexer

/-- The text is read as one number, whatever its end is. -/
def IsNumber (s : List Char) : Prop :=
  ∃ c rest part last, s = c :: rest ∧ start c = some (.number part [c], []) ∧
    rest.foldlM NumberPart.next part = some last ∧ last.complete = true

/-- The rest of a number, from a part on: it can be read, and the number can end behind it. -/
def Completes (part : NumberPart) (s : List Char) : Prop :=
  ∃ last, s.foldlM NumberPart.next part = some last ∧ last.complete = true

/-- A part that goes on with digits of a kind, and then with more of them. -/
theorem foldlM_next_digits {first part : NumberPart} {s t : List Char} (hs : Digits s)
    (hne : s ≠ []) (hfirst : ∀ c : Char, c.isDigit = true → first.next c = some part)
    (hpart : ∀ c : Char, c.isDigit = true → part.next c = some part) :
    (s ++ t).foldlM NumberPart.next first = t.foldlM NumberPart.next part := by
  induction s generalizing first with
  | nil => exact absurd rfl hne
  | cons c s ih =>
      rw [List.cons_append, List.foldlM_cons, hfirst c (hs c List.mem_cons_self)]
      cases s with
      | nil => rfl
      | cons d s => exact ih (fun a ha => hs a (List.mem_cons_of_mem c ha)) (by simp) hpart

/-- The digits of an exponent and its sign end a number. -/
theorem completes_exponent (n : Int) : Completes .exponent (toString n).toList := by
  have hdigits := digits_toString n.natAbs
  have hne := toList_toString_ne_nil n.natAbs
  have hmore : ∀ c : Char, c.isDigit = true →
      NumberPart.exponentDigits.next c = some .exponentDigits := fun c hc => if_pos hc
  have hsigned : ∀ c : Char, c.isDigit = true →
      NumberPart.exponentSign.next c = some .exponentDigits := fun c hc => if_pos hc
  have hbare : ∀ c : Char, c.isDigit = true →
      NumberPart.exponent.next c = some .exponentDigits := by
    intro c hc
    have hsign : ¬ (c = '+' ∨ c = '-') := by
      rintro (rfl | rfl)
      · exact absurd hc (by decide)
      · exact absurd hc (by decide)
    rw [NumberPart.next, if_neg hsign, if_pos hc]
  refine ⟨.exponentDigits, ?_, rfl⟩
  rw [toList_toString_int, ← List.append_nil (toString n.natAbs).toList]
  cases decide (n < 0) with
  | true => exact foldlM_next_digits hdigits hne hsigned hmore
  | false => exact foldlM_next_digits hdigits hne hbare hmore

/-- An exponent or nothing can follow a part that is complete. -/
theorem completes_power (r : RealText) {part : NumberPart} (hcomplete : part.complete = true)
    (hpart : part.next 'e' = some .exponent) : Completes part r.power := by
  cases h : r.exponent with
  | none => exact ⟨part, by rw [RealText.power, h]; rfl, hcomplete⟩
  | some n =>
      obtain ⟨last, hlast, hend⟩ := completes_exponent n
      refine ⟨last, ?_, hend⟩
      rw [RealText.power, h]
      show (part.next 'e' >>= fun part => (toString n).toList.foldlM NumberPart.next part) = _
      rw [hpart]
      exact hlast

/-- What follows the whole part of a real ends a number. -/
theorem completes_point_power {r : RealText} (h : r.Strict) {part : NumberPart}
    (hpart : part = .zero ∨ part = .whole) : Completes part (r.point ++ r.power) := by
  have hcomplete : part.complete = true := by rcases hpart with rfl | rfl <;> rfl
  have hpower : part.next 'e' = some .exponent := by rcases hpart with rfl | rfl <;> rfl
  have hpoint : part.next '.' = some .point := by rcases hpart with rfl | rfl <;> rfl
  cases hfraction : r.fraction with
  | none =>
      rw [RealText.point, hfraction]
      exact completes_power r hcomplete hpower
  | some s =>
      obtain ⟨hs, hne⟩ := h.fraction s hfraction
      have hcompletes : Completes .fraction r.power := completes_power r rfl rfl
      obtain ⟨last, hlast, hend⟩ := hcompletes
      refine ⟨last, ?_, hend⟩
      rw [RealText.point, hfraction]
      show (part.next '.' >>= fun part => (s ++ r.power).foldlM NumberPart.next part) = _
      rw [hpoint]
      refine (foldlM_next_digits hs hne ?_ ?_).trans hlast
      · exact fun c hc => if_pos hc
      · exact fun c hc => if_pos hc

/-- A digit other than zero starts a number. -/
theorem start_digit {c : Char} (hdigit : c.isDigit = true) (hc : c ≠ '0') :
    start c = some (.number .whole [c], []) := by
  rw [start.eq_def]
  split
  case h_17 => rw [if_pos hdigit]
  all_goals first
    | exact absurd rfl hc
    | exact absurd hdigit (by decide)

/-- The digits of a whole number are its whole part, at the start of a text and behind a sign. -/
theorem exists_start {s : List Char} (h : IsWhole s) :
    ∃ c rest first part, s = c :: rest ∧ start c = some (.number first [c], []) ∧
      NumberPart.minus.next c = some first ∧ (part = .zero ∨ part = .whole) ∧
      ∀ t, (rest ++ t).foldlM NumberPart.next first = t.foldlM NumberPart.next part := by
  obtain ⟨hdigits, rfl | ⟨c, rest, rfl, hc⟩⟩ := h
  · exact ⟨'0', [], .zero, .zero, rfl, rfl, rfl, .inl rfl, fun t => rfl⟩
  · have hdigit : c.isDigit = true := hdigits c List.mem_cons_self
    have hmore : ∀ d : Char, d.isDigit = true → NumberPart.whole.next d = some .whole :=
      fun d hd => if_pos hd
    refine ⟨c, rest, .whole, .whole, rfl, start_digit hdigit hc, ?_, .inr rfl, fun t => ?_⟩
    · rw [NumberPart.next, if_neg hc, if_pos hdigit]
    · cases rest with
      | nil => rfl
      | cons d rest =>
          exact foldlM_next_digits (fun a ha => hdigits a (List.mem_cons_of_mem c ha)) (by simp)
            hmore hmore

/-- A whole part with its sign and what ends a number behind it are a number. -/
theorem isNumber_whole {s : List Char} (h : IsWhole s) (negative : Bool) {t : List Char}
    (ht : ∀ part, part = .zero ∨ part = .whole → Completes part t) :
    IsNumber (signChars negative ++ (s ++ t)) := by
  obtain ⟨c, rest, first, part, rfl, hstart, hminus, hpart, hrest⟩ := exists_start h
  obtain ⟨last, hlast, hend⟩ := ht part hpart
  cases negative with
  | false => exact ⟨c, rest ++ t, first, last, rfl, hstart, (hrest t).trans hlast, hend⟩
  | true =>
      refine ⟨'-', c :: (rest ++ t), .minus, last, rfl, rfl, ?_, hend⟩
      rw [List.foldlM_cons, hminus]
      exact (hrest t).trans hlast

/-- An integer is a number. -/
theorem isNumber_integer (n : Int) : IsNumber (toString n).toList := by
  rw [toList_toString_int, ← List.append_nil (toString n.natAbs).toList]
  refine isNumber_whole (isWhole_toString n.natAbs) _ fun part hpart => ⟨part, rfl, ?_⟩
  rcases hpart with rfl | rfl <;> rfl

/-- A finite real is a number. -/
theorem isNumber_real (layout : DecimalLayout) (x : Double) :
    IsNumber (x.text layout).toList := by
  have hstrict := x.strict_realText layout
  rw [Double.toList_text]
  exact isNumber_whole hstrict.whole _ fun part hpart => completes_point_power hstrict hpart

end JsonLexer

/-! ## The value of an integer -/

namespace JsonNumber

/-- Digits that all fit leave their number to the digits behind them. -/
theorem accumulate_append {bound n : Nat} {s : List Char} (h : (accumulate bound n s).2 = 0)
    (t : List Char) :
    accumulate bound n (s ++ t) = accumulate bound (accumulate bound n s).1 t := by
  induction s generalizing n with
  | nil => rfl
  | cons c s ih =>
      rw [accumulate] at h ⊢
      rw [List.cons_append, accumulate]
      split at h
      · rename_i hfits
        rw [if_pos hfits, if_pos hfits]
        exact ih h
      · cases h

/-- The digits of a number below the bound give that number. -/
theorem accumulate_toDigits {bound n : Nat} (hn : n < bound) :
    accumulate bound 0 (Nat.toDigits 10 n) = (n, 0) := by
  have hdigit {m d : Nat} (hd : d < 10) (hfits : m * 10 + d < bound) :
      accumulate bound m [d.digitChar] = (m * 10 + d, 0) := by
    have hvalue : digitValue d.digitChar = d := by
      rw [digitValue, Nat.toNat_digitChar_of_lt_ten hd]
      omega
    rw [accumulate, hvalue, if_pos hfits, accumulate]
  induction n using Nat.strongRecOn with
  | ind n ih =>
      by_cases hsmall : n < 10
      · rw [Nat.toDigits_of_lt_base hsmall, hdigit hsmall (by omega)]
        simp
      · have hfront := ih (n / 10) (by omega) (by omega)
        rw [Nat.toDigits_of_base_le (by decide) (by omega), accumulate_append (by rw [hfront]),
          hfront, hdigit (Nat.mod_lt n (by decide)) (by omega)]
        simp only [Prod.mk.injEq, and_true]
        omega

/-- The parts of the text of an integer. -/
theorem ofLexeme_parts_toString (n : Int) :
    Parts.ofLexeme (toString n) = ⟨n < 0, (toString n.natAbs).toList, [], none⟩ := by
  have hhead := head?_toString n.natAbs
  have hspan := span_toString n.natAbs
  have hminus : ((toString n.natAbs).toList.head? == some '-') = false := by
    rw [beq_eq_false_iff_ne]
    exact fun h => absurd (hhead '-' h) (by decide)
  rw [Parts.ofLexeme, toList_toString_int]
  generalize (toString n.natAbs).toList = digits at *
  by_cases hn : n < 0
  · simp [signChars, hn, hspan]
  · simp [signChars, hn, hminus, hspan]

/-- The lexeme of an integer of at most sixty-four bits stands for that integer. -/
theorem ofLexeme_toString {n : Int} (hlow : -0x8000000000000000 ≤ n) (hhigh : n < UInt64.size) :
    ofLexeme (toString n) = some (.integer n) := by
  have hdigits : (toString n.natAbs).toList = Nat.toDigits 10 n.natAbs := by simp
  have hsize : UInt64.size = 18446744073709551616 := rfl
  rw [ofLexeme, ofLexeme_parts_toString, hdigits, accumulate_toDigits (by omega)]
  by_cases hn : n < 0
  · have hfits : 0 < n.natAbs ∧ n.natAbs ≤ 0x8000000000000000 := by omega
    have habs : -(n.natAbs : Int) = n := by omega
    simp only [hn, decide_true, not_true_eq_false, if_false, and_self, if_true, hfits, habs]
  · have habs : (n.natAbs : Int) = n := by omega
    simp only [hn, decide_false, Bool.false_eq_true, not_false_eq_true, and_self, if_true, habs]

end JsonNumber

end SqlStore
