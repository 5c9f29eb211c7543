/-
# The shortest decimal of a double

The decimal that is written for a double lies in the interval of the double.  A grid point is only
taken when it does, and seventeen digits always find one: half a step of that grid is less than the
distance to the nearer end of the interval.

* `Decimal.Interval.Admits` : a decimal that lies in an interval;
* `Decimal.nearestOnGrid_admits`, `Decimal.exists_nearestOnGrid` : grid points, and that there is
  one;
* `Decimal.admits_shortest`, `Decimal.shortest_point` : the shortest decimal and its size;
* `Double.ofDecimal_eq` : a decimal in the interval of a double is read as that double.
-/
import SqlStore.Double.Rounded
import SqlStore.Proofs.Double.Rounding

namespace SqlStore

namespace Decimal

/-! ## The size of a number -/

theorem digitCount_pos (n : Nat) : 0 < digitCount n := by
  rw [digitCount]
  split <;> omega

theorem lt_pow_digitCount (n : Nat) : n < 10 ^ digitCount n := by
  induction n using Nat.strongRecOn with
  | ind n ih =>
      rw [digitCount]
      by_cases hsmall : n < 10
      · rw [if_pos hsmall]
        omega
      · have hfront := ih (n / 10) (by omega)
        rw [if_neg hsmall, Nat.pow_succ]
        omega

theorem pow_le_of_digitCount {n : Nat} (hn : 0 < n) : 10 ^ (digitCount n - 1) ≤ n := by
  induction n using Nat.strongRecOn with
  | ind n ih =>
      rw [digitCount]
      by_cases hsmall : n < 10
      · rw [if_pos hsmall]
        omega
      · have hfront := ih (n / 10) (by omega) (by omega)
        obtain ⟨k, hk⟩ := Nat.exists_eq_succ_of_ne_zero (Nat.ne_of_gt (digitCount_pos (n / 10)))
        rw [hk, Nat.succ_eq_add_one, Nat.add_sub_cancel] at hfront
        rw [if_neg hsmall, Nat.add_sub_cancel, hk, Nat.succ_eq_add_one, Nat.pow_succ]
        omega

theorem shiftLeft_pos (k : Nat) : 0 < 1 <<< k := by
  rw [Nat.shiftLeft_eq, Nat.one_mul]
  exact Nat.two_pow_pos k

theorem unitsPerOne_eq : unitsPerOne = 4 * Double.unitsPerOne := rfl

theorem unitsPerOne_pos : 0 < unitsPerOne := Nat.mul_pos (by decide) (shiftLeft_pos 1074)

/-- The power of ten below the point is not more than the number of units. -/
theorem pow_pointAbove_le {centre : Nat} (hcentre : 0 < centre) :
    10 ^ (pointAbove centre - 1).toNat * unitsPerOne
      ≤ centre * 10 ^ (1 - pointAbove centre).toNat := by
  have hunits := unitsPerOne_pos
  rw [pointAbove]
  by_cases hlarge : unitsPerOne ≤ centre
  · have hcount := digitCount_pos (centre / unitsPerOne)
    have hpow := pow_le_of_digitCount (Nat.div_pos hlarge hunits)
    have hbelow : ((digitCount (centre / unitsPerOne) : Int) - 1).toNat
        = digitCount (centre / unitsPerOne) - 1 := by omega
    have habove : (1 - (digitCount (centre / unitsPerOne) : Int)).toNat = 0 := by omega
    rw [if_pos hlarge, hbelow, habove, Nat.pow_zero, Nat.mul_one]
    exact Nat.le_trans (Nat.mul_le_mul_right _ hpow) (Nat.div_mul_le_self centre unitsPerOne)
  · have hlt := lt_pow_digitCount ((unitsPerOne - 1) / centre)
    have hbelow : (1 - (digitCount ((unitsPerOne - 1) / centre) : Int) - 1).toNat = 0 := by omega
    have habove : (1 - (1 - (digitCount ((unitsPerOne - 1) / centre) : Int))).toNat
        = digitCount ((unitsPerOne - 1) / centre) := by omega
    rw [if_neg hlarge, hbelow, habove, Nat.pow_zero, Nat.one_mul]
    rw [Nat.div_lt_iff_lt_mul hcentre, Nat.mul_comm] at hlt
    omega

/-- With seventeen digits a step of the grid is sixteen digits smaller than the number. -/
theorem step_le {centre : Nat} (hcentre : 0 < centre) :
    10 ^ 16 * (10 ^ (pointAbove centre - 17).toNat * unitsPerOne)
      ≤ centre * 10 ^ (-(pointAbove centre - 17)).toNat := by
  have hpoint := pow_pointAbove_le hcentre
  generalize pointAbove centre = point at *
  generalize unitsPerOne = units at *
  have hpower : 10 ^ 16 * 10 ^ (point - 17).toNat * 10 ^ (1 - point).toNat
      = 10 ^ (point - 1).toNat * 10 ^ (-(point - 17)).toNat := by
    rw [← Nat.pow_add, ← Nat.pow_add, ← Nat.pow_add]
    congr 1
    omega
  refine Nat.le_of_mul_le_mul_right ?_ (Nat.pow_pos (n := (1 - point).toNat) (by decide : 0 < 10))
  have hscaled := Nat.mul_le_mul_right (10 ^ (-(point - 17)).toNat) hpoint
  calc 10 ^ 16 * (10 ^ (point - 17).toNat * units) * 10 ^ (1 - point).toNat
      = 10 ^ 16 * 10 ^ (point - 17).toNat * 10 ^ (1 - point).toNat * units := by
        ac_rfl
    _ = 10 ^ (point - 1).toNat * units * 10 ^ (-(point - 17)).toNat := by
        rw [hpower]
        ac_rfl
    _ ≤ centre * 10 ^ (1 - point).toNat * 10 ^ (-(point - 17)).toNat := hscaled
    _ = centre * 10 ^ (-(point - 17)).toNat * 10 ^ (1 - point).toNat := by
        ac_rfl

/-! ## Decimals in an interval -/

/-- The decimal `coefficient * 10 ^ exponent` lies in the interval. -/
def Interval.Admits (range : Interval) (coefficient : Nat) (exponent : Int) : Prop :=
  range.Holds (coefficient * 10 ^ exponent.toNat * Double.unitsPerOne) (10 ^ (-exponent).toNat)

namespace Interval

variable {range : Interval}

/-- Two ratios of the same value lie in the same intervals. -/
theorem Holds.of_eq {num den num' den' : Nat} (h : range.Holds num den) (hden : 0 < den)
    (hden' : 0 < den') (heq : num * den' = num' * den) : range.Holds num' den' := by
  have hbound (bound : Nat) : bound * den' * den = bound * den * den' := by ac_rfl
  have hnum : 4 * num' * den = 4 * num * den' := by
    rw [Nat.mul_assoc, ← heq, Nat.mul_assoc]
  constructor
  · refine Nat.le_of_mul_le_mul_right ?_ hden
    rw [hbound, hnum]
    exact Nat.mul_le_mul_right den' h.low
  · refine Nat.le_of_mul_le_mul_right ?_ hden
    rw [hbound, hnum]
    exact Nat.mul_le_mul_right den' h.high
  · intro hopen
    obtain ⟨hlow, hhigh⟩ := h.strict hopen
    constructor
    · refine Nat.lt_of_mul_lt_mul_right (a := den) ?_
      rw [hbound, hnum]
      exact Nat.mul_lt_mul_of_pos_right hlow hden'
    · refine Nat.lt_of_mul_lt_mul_right (a := den) ?_
      rw [hbound, hnum]
      exact Nat.mul_lt_mul_of_pos_right hhigh hden'

/-- Zeros at the end of a coefficient can go to the exponent and back. -/
theorem admits_mul_pow (coefficient : Nat) (exponent : Int) (zeros : Nat) :
    range.Admits (coefficient * 10 ^ zeros) (exponent - zeros) ↔
      range.Admits coefficient exponent := by
  have hpow (k : Nat) : 0 < 10 ^ k := Nat.pow_pos (by decide)
  have hpower : 10 ^ zeros * 10 ^ (exponent - zeros).toNat * 10 ^ (-exponent).toNat
      = 10 ^ exponent.toNat * 10 ^ (-(exponent - zeros)).toNat := by
    rw [← Nat.pow_add, ← Nat.pow_add, ← Nat.pow_add]
    congr 1
    omega
  have hvalue : coefficient * 10 ^ zeros * 10 ^ (exponent - zeros).toNat * Double.unitsPerOne
        * 10 ^ (-exponent).toNat
      = coefficient * 10 ^ exponent.toNat * Double.unitsPerOne
        * 10 ^ (-(exponent - zeros)).toNat := by
    calc coefficient * 10 ^ zeros * 10 ^ (exponent - zeros).toNat * Double.unitsPerOne
          * 10 ^ (-exponent).toNat
        = coefficient * (10 ^ zeros * 10 ^ (exponent - zeros).toNat * 10 ^ (-exponent).toNat)
          * Double.unitsPerOne := by ac_rfl
      _ = coefficient * 10 ^ exponent.toNat * Double.unitsPerOne
          * 10 ^ (-(exponent - zeros)).toNat := by
        rw [hpower]
        ac_rfl
  constructor
  · intro h
    exact h.of_eq (hpow _) (hpow _) hvalue
  · intro h
    exact h.of_eq (hpow _) (hpow _) hvalue.symm

/-- The interval of a double other than zero holds positive numbers only. -/
theorem Admits.coefficient_pos {x : Double} {coefficient : Nat} {exponent : Int}
    (h : (interval x).Admits coefficient exponent) (hx : x.magnitude ≠ 0) : 0 < coefficient := by
  refine Nat.pos_of_ne_zero fun hzero => ?_
  have hlow := h.low
  rw [hzero, Nat.zero_mul, Nat.zero_mul, Nat.mul_zero] at hlow
  have := Nat.mul_pos (Double.interval_low_pos hx)
    (Nat.pow_pos (n := (-exponent).toNat) (by decide : 0 < 10))
  omega

end Interval

/-! ## Grid points -/

/-- A grid point is only taken if it lies in the interval. -/
theorem nearestOnGrid_admits {tie : TieRule} {range : Interval} {exponent : Int} {c : Nat}
    (h : nearestOnGrid tie range exponent = some c) : range.Admits c exponent := by
  unfold nearestOnGrid at h
  extract_lets step refine within below rest lower upper at h
  have hwithin (c : Nat) (hc : within c = true) : range.Admits c exponent := by
    have hnum : 4 * (c * 10 ^ exponent.toNat * Double.unitsPerOne) = c * step := by
      simp only [step, Nat.pow_eq, unitsPerOne_eq]
      generalize Double.unitsPerOne = units
      ac_rfl
    simp only [within] at hc
    split at hc
    · rename_i hclosed
      simp only [Bool.and_eq_true, decide_eq_true_eq] at hc
      refine ⟨by rw [hnum]; exact hc.1, by rw [hnum]; exact hc.2, fun hopen => ?_⟩
      rw [hclosed] at hopen
      cases hopen
    · simp only [Bool.and_eq_true, decide_eq_true_eq] at hc
      refine ⟨?_, ?_, fun _ => ?_⟩
      · rw [hnum]
        exact Nat.le_of_lt hc.1
      · rw [hnum]
        exact Nat.le_of_lt hc.2
      · rw [hnum]
        exact hc
  have hlower : lower = true → range.Admits below exponent := hwithin below
  have hupper : upper = true → range.Admits (below + 1) exponent := hwithin (below + 1)
  clear_value lower upper rest below step
  split at h
  · rename_i hboth
    obtain ⟨hl, hu⟩ := Bool.and_eq_true_iff.mp hboth
    split at h
    · exact Option.some.inj h ▸ hlower hl
    · split at h
      · exact Option.some.inj h ▸ hupper hu
      · cases tie with
        | up => exact Option.some.inj h ▸ hupper hu
        | even =>
            -- The even one of the two is the lower or the upper one.
            have hc : below + below % 2 = c := Option.some.inj h
            rcases Nat.mod_two_eq_zero_or_one below with heven | hodd
            · rw [heven, Nat.add_zero] at hc
              exact hc ▸ hlower hl
            · rw [hodd] at hc
              exact hc ▸ hupper hu
  · split at h
    · rename_i hl
      exact Option.some.inj h ▸ hlower hl
    · split at h
      · rename_i hu
        exact Option.some.inj h ▸ hupper hu
      · cases h

/-- Both ends of the interval of a double are further away than half a step of seventeen digits. -/
theorem lt_of_half_step {x : Double} (hx : x.magnitude ≠ 0) {step refine rest : Nat}
    (hrefine : 0 < refine) (hstep : 10 ^ 16 * step ≤ (interval x).centre * refine)
    (hhalf : 2 * rest ≤ step) :
    (interval x).low * refine + rest < (interval x).centre * refine ∧
      (interval x).centre * refine + rest < (interval x).high * refine := by
  have hbinade := Double.binade_eq
  have hsignificand := x.significand_lt
  have hunit : 0 < 2 ^ x.scale * refine := Nat.mul_pos (Nat.two_pow_pos _) hrefine
  have hcentre : (interval x).centre * refine = 4 * (x.significand * (2 ^ x.scale * refine)) := by
    simp only [interval, Double.unitMagnitude, Nat.shiftLeft_eq, Nat.mul_assoc]
  have hlow := Double.interval_low_mul hx refine
  have hhigh := Double.interval_high_mul x refine
  generalize 2 ^ x.scale * refine = unit at *
  have hless := Nat.mul_le_mul_right unit (Nat.succ_le_of_lt hsignificand)
  rw [Nat.succ_mul, hbinade] at hless
  constructor
  · split at hlow
    · rename_i hleading
      rw [hleading.1, hbinade] at hlow hcentre
      omega
    · omega
  · omega

/-- With seventeen digits there is a point of the grid in the interval. -/
theorem exists_nearestOnGrid (tie : TieRule) {x : Double} (hx : x.magnitude ≠ 0) :
    ∃ c, nearestOnGrid tie (interval x) (pointAbove (interval x).centre - 17) = some c := by
  have hcentre : 0 < (interval x).centre := by
    have hpos := Nat.mul_pos (Double.significand_pos hx) (Nat.two_pow_pos x.scale)
    simp only [interval, Double.unitMagnitude, Nat.shiftLeft_eq]
    omega
  have hstep := step_le hcentre
  unfold nearestOnGrid
  extract_lets step refine within below rest lower upper
  have hpositive : 0 < step := Nat.mul_pos (Nat.pow_pos (by decide)) unitsPerOne_pos
  have hrefine : 0 < refine := Nat.pow_pos (by decide)
  have hends {d : Nat} (hhalf : 2 * d ≤ step) := lt_of_half_step hx hrefine hstep hhalf
  have hdivide : below * step + rest = (interval x).centre * refine := Nat.div_add_mod' _ _
  have hrest : rest < step := Nat.mod_lt _ hpositive
  have hwithin (c : Nat) (hlow : (interval x).low * refine < c * step)
      (hhigh : c * step < (interval x).high * refine) : within c = true := by
    simp only [within]
    split <;> simp only [Bool.and_eq_true, decide_eq_true_eq] <;> omega
  have hnext : (below + 1) * step = below * step + step := Nat.succ_mul below step
  -- The nearer one of the two points around the number is half a step away at most.
  have hfound : lower = true ∨ upper = true := by
    by_cases hhalf : 2 * rest ≤ step
    · have := hends hhalf
      exact .inl (hwithin below (by omega) (by omega))
    · have := hends (d := step - rest) (by omega)
      exact .inr (hwithin (below + 1) (by omega) (by omega))
  clear_value lower upper rest below step
  split
  · split
    · exact ⟨below, rfl⟩
    · split
      · exact ⟨below + 1, rfl⟩
      · cases tie <;> exact ⟨_, rfl⟩
  · by_cases hl : lower = true
    · exact ⟨below, by rw [if_pos hl]⟩
    · exact ⟨below + 1, by rw [if_neg hl, if_pos (hfound.resolve_left hl)]⟩

/-! ## The digits of a grid point -/

/-- A grid point is written without the zeros at the end of its coefficient. -/
theorem exists_ofGrid (c : Nat) (exponent : Int) :
    ∃ zeros : Nat, Nat.toDigits 10 c
        = (ofGrid c exponent).digits ++ List.replicate zeros '0' ∧
      (ofGrid c exponent).point = (ofGrid c exponent).digits.length + zeros + exponent := by
  have hdigits : (toString c).toList = Nat.toDigits 10 c := by simp
  rw [ofGrid, hdigits]
  generalize Nat.toDigits 10 c = digits
  have hsplit := congrArg List.reverse (List.takeWhile_append_dropWhile (p := (· == '0'))
    (l := digits.reverse))
  have hzeros := List.eq_replicate_iff.mpr ⟨rfl, fun d hd =>
    eq_of_beq (List.all_eq_true.mp
      (List.all_takeWhile (p := (· == '0')) (l := digits.reverse)) d hd)⟩
  rw [List.reverse_append, List.reverse_reverse] at hsplit
  refine ⟨(digits.reverse.takeWhile (· == '0')).length, ?_, ?_⟩
  · rw [← List.reverse_replicate, ← hzeros]
    exact hsplit.symm
  · have hlength := congrArg List.length hsplit
    simp only [List.length_append, List.length_reverse] at hlength ⊢
    omega

/-- The digits of a grid point stand for the grid point. -/
theorem Interval.Admits.ofGrid {range : Interval} {c : Nat} {exponent : Int}
    (h : range.Admits c exponent) :
    range.Admits (Nat.ofDigitChars 10 (ofGrid c exponent).digits 0)
      ((ofGrid c exponent).point - (ofGrid c exponent).digits.length) := by
  obtain ⟨zeros, hdigits, hpoint⟩ := exists_ofGrid c exponent
  have hvalue := congrArg (Nat.ofDigitChars 10 · 0) hdigits
  simp only [Nat.ofDigitChars_append, Nat.ofDigitChars_replicate_zero,
    Nat.ofDigitChars_toDigits (by decide : 1 < 10) (by decide : 10 ≤ 10)] at hvalue
  rw [← admits_mul_pow _ _ zeros, Nat.mul_comm, ← hvalue, hpoint]
  have hexponent : ((Decimal.ofGrid c exponent).digits.length : Int) + zeros + exponent
      - (Decimal.ofGrid c exponent).digits.length - zeros = exponent := by omega
  rw [hexponent]
  exact h

/-! ## The shortest decimal -/

/-- The shortest decimal of a double is a grid point in its interval. -/
theorem exists_shortest (tie : TieRule) {x : Double} (hx : x.magnitude ≠ 0) :
    ∃ (c : Nat) (exponent : Int), shortest tie x = ofGrid c exponent ∧
      (interval x).Admits c exponent ∧
      pointAbove (interval x).centre - 17 ≤ exponent := by
  unfold shortest
  extract_lets range point attempt
  cases h : (List.range 17).findSome? (fun n => attempt (n + 1)) with
  | none =>
      obtain ⟨c, hc⟩ := exists_nearestOnGrid tie hx
      have hnone := List.findSome?_eq_none_iff.mp h 16 (by decide)
      have hattempt : attempt 17 = none := hnone
      simp only [attempt] at hattempt
      rw [Option.map_eq_none_iff] at hattempt
      exact absurd (hattempt.symm.trans hc) nofun
  | some d =>
      obtain ⟨n, hn, hattempt⟩ := List.exists_of_findSome?_eq_some h
      obtain ⟨c, hc, rfl⟩ := Option.map_eq_some_iff.mp hattempt
      have hcount := List.mem_range.mp hn
      have hpoint : point = pointAbove (interval x).centre := rfl
      refine ⟨c, point - (n + 1 : Nat), rfl, nearestOnGrid_admits hc, ?_⟩
      omega

/-- The shortest decimal of a double lies in the interval of the double. -/
theorem admits_shortest (tie : TieRule) {x : Double} (hx : x.magnitude ≠ 0) :
    (interval x).Admits (Nat.ofDigitChars 10 (shortest tie x).digits 0)
      ((shortest tie x).point - (shortest tie x).digits.length) := by
  obtain ⟨c, exponent, hshortest, hadmits, -⟩ := exists_shortest tie hx
  rw [hshortest]
  exact hadmits.ofGrid

theorem shortest_digits_ne_nil (tie : TieRule) {x : Double} (hx : x.magnitude ≠ 0) :
    (shortest tie x).digits ≠ [] := by
  intro hempty
  have hpos := (admits_shortest tie hx).coefficient_pos hx
  rw [hempty] at hpos
  exact absurd hpos (by decide)

/-! ## The size of the shortest decimal -/

theorem four_mul_shiftLeft (k : Nat) : 4 * (1 <<< k) = 2 ^ (k + 2) := by
  rw [Nat.shiftLeft_eq, Nat.one_mul, Nat.pow_add, Nat.mul_comm]

/-- A number has no more decimal digits than binary ones. -/
theorem digitCount_le {n k : Nat} (h : n < 2 ^ (k + 1)) : digitCount n ≤ k + 1 := by
  rcases Nat.eq_zero_or_pos n with rfl | hn
  · rw [digitCount, if_pos (by decide)]
    omega
  · have hpow : 2 ^ (digitCount n - 1) < 2 ^ (k + 1) :=
      Nat.lt_of_le_of_lt (Nat.pow_le_pow_left (by decide) _)
        (Nat.lt_of_le_of_lt (pow_le_of_digitCount hn) h)
    have := (Nat.pow_lt_pow_iff_right (by decide)).mp hpow
    omega

/-- A number of at least one unit has no more zeros behind its point than a unit has binary
places. -/
theorem le_pointAbove_of_eq {k : Nat} (hunits : unitsPerOne = 2 ^ (k + 2)) (centre : Nat) :
    -(k + 1 : Int) ≤ pointAbove centre := by
  rw [pointAbove]
  split
  · omega
  · have hpositive := unitsPerOne_pos
    have hless : (unitsPerOne - 1) / centre < 2 ^ (k + 1 + 1) :=
      Nat.lt_of_le_of_lt (Nat.div_le_self _ centre) (hunits ▸ Nat.sub_lt hpositive (by decide))
    have := digitCount_le hless
    omega

theorem le_pointAbove (centre : Nat) : -1075 ≤ pointAbove centre :=
  le_pointAbove_of_eq (four_mul_shiftLeft 1074) centre

theorem scale_lt (x : Double) : x.scale < 2048 := by
  have hbinade := Double.binade_eq
  have hsign : Double.signBit = 9223372036854775808 := rfl
  rw [Double.scale, Double.magnitude, hbinade, hsign]
  omega

theorem interval_high_lt (x : Double) : (interval x).high < 2 ^ (x.scale + 56) := by
  have hpower : 2 ^ (x.scale + 56) = 72057594037927936 * 2 ^ x.scale := by
    rw [Nat.pow_add, Nat.mul_comm]
  have hproduct := Nat.mul_le_mul_right (2 ^ x.scale) (Nat.le_of_lt x.significand_lt)
  have hpositive := Nat.two_pow_pos x.scale
  rw [Double.binade_eq] at hproduct
  rw [Double.interval_high, hpower]
  omega

/-- The point of a decimal in an interval is bounded by the interval's upper end. -/
theorem Interval.Admits.point_le {range : Interval} {c k : Nat} {exponent : Int}
    (h : range.Admits c exponent) (hc : 0 < c) (hrange : range.high < 2 ^ k) :
    (Nat.toDigits 10 c).length + exponent ≤ k := by
  have hpositive : 0 < (Nat.toDigits 10 c).length := Nat.length_toDigits_pos
  have hleading : 10 ^ ((Nat.toDigits 10 c).length - 1) ≤ c := by
    refine Nat.le_of_not_lt fun hless => ?_
    by_cases hone : (Nat.toDigits 10 c).length = 1
    · rw [hone] at hless
      omega
    · have := (Nat.length_toDigits_le_iff (by decide) (by omega)).mpr hless
      omega
  generalize (Nat.toDigits 10 c).length = length at *
  by_cases hsmall : length + exponent ≤ 0
  · omega
  obtain ⟨m, hm⟩ : ∃ m : Nat, length + exponent = (m : Int) + 1 :=
    ⟨(length + exponent - 1).toNat, by omega⟩
  have hpower : 10 ^ (length - 1) * 10 ^ exponent.toNat = 10 ^ m * 10 ^ (-exponent).toNat := by
    rw [← Nat.pow_add, ← Nat.pow_add]
    congr 1
    omega
  have hunits : 0 < Double.unitsPerOne := shiftLeft_pos 1074
  have hden : 0 < 10 ^ (-exponent).toNat := Nat.pow_pos (by decide)
  have hhigh : 10 ^ m ≤ range.high := by
    refine Nat.le_of_mul_le_mul_right ?_ hden
    calc 10 ^ m * 10 ^ (-exponent).toNat
        = 10 ^ (length - 1) * 10 ^ exponent.toNat := hpower.symm
      _ ≤ c * 10 ^ exponent.toNat := Nat.mul_le_mul_right _ hleading
      _ ≤ c * 10 ^ exponent.toNat * Double.unitsPerOne := Nat.le_mul_of_pos_right _ hunits
      _ ≤ 4 * (c * 10 ^ exponent.toNat * Double.unitsPerOne) :=
          Nat.le_mul_of_pos_left _ (by decide)
      _ ≤ range.high * 10 ^ (-exponent).toNat := h.high
  have hexponent : 2 ^ m < 2 ^ k :=
    Nat.lt_of_le_of_lt (Nat.le_trans (Nat.pow_le_pow_left (by decide) m) hhigh) hrange
  have := (Nat.pow_lt_pow_iff_right (by decide)).mp hexponent
  omega

/-- A grid point has its point where its coefficient and exponent put it. -/
theorem ofGrid_point (c : Nat) (exponent : Int) :
    (ofGrid c exponent).point = (Nat.toDigits 10 c).length + exponent := by
  obtain ⟨zeros, hdigits, hpoint⟩ := exists_ofGrid c exponent
  have hlength := congrArg List.length hdigits
  rw [List.length_append, List.length_replicate] at hlength
  omega

/-- The point of the shortest decimal stays near the digits. -/
theorem shortest_point (tie : TieRule) {x : Double} (hx : x.magnitude ≠ 0) :
    -2000 ≤ (shortest tie x).point ∧ (shortest tie x).point ≤ 3000 := by
  obtain ⟨c, exponent, hshortest, hadmits, hexponent⟩ := exists_shortest tie hx
  have hc := hadmits.coefficient_pos hx
  have habove := hadmits.point_le hc (interval_high_lt x)
  have hbelow := le_pointAbove (interval x).centre
  have hscale := scale_lt x
  have hlength : 0 < (Nat.toDigits 10 c).length := Nat.length_toDigits_pos
  rw [hshortest, ofGrid_point]
  omega

end Decimal

/-- A decimal in the interval of a double is read as that double. -/
theorem Double.ofDecimal_eq {x : Double} (hfinite : x.isFinite = true) (hx : x.magnitude ≠ 0)
    {coefficient : Nat} {exponent : Int} (h : (Decimal.interval x).Admits coefficient exponent) :
    Double.ofDecimal x.negative coefficient exponent = x :=
  ofUnits_eq hfinite hx (Nat.pow_pos (by decide)) h

end SqlStore
