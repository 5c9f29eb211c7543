/-
# Rounding to a double

A double stands for the reals in an interval around it.  Its magnitude counts significands binade
after binade, so the nearest magnitude to a ratio is found from the ratio's own binade, and for a
ratio in the interval that is the binade of the double or, just below a power of two, the one
before.

* `Decimal.Interval.Holds` : a ratio that lies in an interval;
* `Double.nearestMagnitude_eq` : a ratio in the interval of a double rounds to that double;
* `Double.ofUnits_eq` : so does a signed one.
-/
import Mathlib.Algebra.Group.Nat.Defs
import SqlStore.Double.Shortest

namespace SqlStore

namespace Double

/-! ## The parts of a double -/

theorem binade_eq : binade = 4503599627370496 := rfl

/-- A magnitude counts the significands of every scale, one scale after another. -/
theorem magnitude_eq (x : Double) : x.magnitude = x.scale * binade + x.significand := by
  have hdivide := Nat.div_add_mod x.magnitude binade
  rw [scale, significand]
  by_cases hzero : x.magnitude / binade = 0
  · rw [hzero] at hdivide
    simp only [hzero, if_true]
    omega
  · obtain ⟨e, he⟩ := Nat.exists_eq_succ_of_ne_zero hzero
    rw [he, Nat.succ_eq_add_one] at hdivide ⊢
    rw [if_neg (Nat.succ_ne_zero e), Nat.add_sub_cancel]
    have hproduct : binade * (e + 1) = e * binade + binade := by
      rw [Nat.mul_comm, Nat.succ_mul]
    omega

theorem significand_lt (x : Double) : x.significand < 2 * binade := by
  have hmod : x.magnitude % binade < binade := Nat.mod_lt _ (by decide)
  rw [significand]
  split <;> omega

/-- Above the lowest scale a significand has its leading bit. -/
theorem binade_le_significand {x : Double} (h : 0 < x.scale) : binade ≤ x.significand := by
  rw [scale] at h
  rw [significand, if_neg (by omega)]
  omega

theorem significand_pos {x : Double} (hx : x.magnitude ≠ 0) : 0 < x.significand := by
  have hmagnitude := x.magnitude_eq
  by_cases hscale : 0 < x.scale
  · have hbinade := binade_eq
    have := binade_le_significand hscale
    omega
  · have hzero : x.scale = 0 := by omega
    rw [hzero] at hmagnitude
    omega

/-- A double is its sign and its magnitude. -/
theorem ofMagnitude_magnitude (x : Double) : ofMagnitude x.negative x.magnitude = x := by
  obtain ⟨bits⟩ := x
  have hsign : signBit = 9223372036854775808 := rfl
  have hbits := bits.toNat_lt
  rw [ofMagnitude]
  congr 1
  rw [← UInt64.toNat_inj, UInt64.toNat_ofNat']
  simp only [negative, magnitude, decide_eq_true_eq, hsign]
  split <;> omega

/-! ## The interval of a double -/

/-- How far the interval reaches down; below a power of two the doubles are closer. -/
theorem interval_low {x : Double} (hx : x.magnitude ≠ 0) :
    (Decimal.interval x).low
      + (if x.significand = binade ∧ 0 < x.scale then 2 ^ x.scale else 2 * 2 ^ x.scale)
      = 4 * (x.significand * 2 ^ x.scale) := by
  have hpos := significand_pos hx
  have hproduct : 2 ^ x.scale ≤ x.significand * 2 ^ x.scale := Nat.le_mul_of_pos_left _ hpos
  simp only [Decimal.interval, unitMagnitude, Nat.shiftLeft_eq, Nat.one_mul]
  split <;> omega

/-- A positive double has room below it. -/
theorem interval_low_pos {x : Double} (hx : x.magnitude ≠ 0) : 0 < (Decimal.interval x).low := by
  have hlow := interval_low hx
  have hproduct : 2 ^ x.scale ≤ x.significand * 2 ^ x.scale :=
    Nat.le_mul_of_pos_left _ (significand_pos hx)
  have hpower := Nat.two_pow_pos x.scale
  split at hlow <;> omega

theorem interval_high (x : Double) :
    (Decimal.interval x).high = 4 * (x.significand * 2 ^ x.scale) + 2 * 2 ^ x.scale := by
  simp only [Decimal.interval, unitMagnitude, Nat.shiftLeft_eq, Nat.one_mul]

/-- The ends counted in steps of one significand. -/
theorem interval_low_mul {x : Double} (hx : x.magnitude ≠ 0) (den : Nat) :
    (Decimal.interval x).low * den
      + (if x.significand = binade ∧ 0 < x.scale then 2 ^ x.scale * den
        else 2 * (2 ^ x.scale * den)) = 4 * (x.significand * (2 ^ x.scale * den)) := by
  have hlow := congrArg (· * den) (interval_low hx)
  simp only [Nat.add_mul, Nat.mul_assoc] at hlow
  split
  · rename_i hcondition
    rwa [if_pos hcondition] at hlow
  · rename_i hcondition
    rwa [if_neg hcondition, Nat.mul_assoc] at hlow

theorem interval_high_mul (x : Double) (den : Nat) :
    (Decimal.interval x).high * den
      = 4 * (x.significand * (2 ^ x.scale * den)) + 2 * (2 ^ x.scale * den) := by
  rw [interval_high, Nat.add_mul]
  simp only [Nat.mul_assoc]

end Double

/-- The ratio `num / den` of units of `2 ^ -1074` lies in the interval. -/
structure Decimal.Interval.Holds (range : Decimal.Interval) (num den : Nat) : Prop where
  low : range.low * den ≤ 4 * num
  high : 4 * num ≤ range.high * den
  strict : range.closed = false → range.low * den < 4 * num ∧ 4 * num < range.high * den

namespace Double

/-! ## The nearest natural -/

/-- A quotient within a half of a natural rounds to it; the half itself belongs to even naturals. -/
theorem nearestEven_eq {num den n : Nat} (hden : 0 < den) (hlow : 2 * (n * den) ≤ 2 * num + den)
    (hhigh : 2 * num ≤ 2 * (n * den) + den)
    (hodd : n % 2 = 1 → 2 * (n * den) < 2 * num + den ∧ 2 * num < 2 * (n * den) + den) :
    nearestEven num den = n := by
  have hdivide := Nat.div_add_mod num den
  have hrest := Nat.mod_lt num hden
  rw [nearestEven]
  generalize num / den = quotient at *
  generalize num % den = rest at *
  rw [Nat.mul_comm] at hdivide
  have hcases : n = quotient ∨ n = quotient + 1 := by
    -- Any other natural is further away than a half.
    rcases Nat.lt_trichotomy n quotient with hlt | heq | hgt
    · have := Nat.mul_le_mul_right den (Nat.succ_le_of_lt hlt)
      rw [Nat.succ_mul] at this
      omega
    · exact .inl heq
    · by_cases hnext : n = quotient + 1
      · exact .inr hnext
      · have := Nat.mul_le_mul_right den (show quotient + 2 ≤ n by omega)
        rw [Nat.add_mul] at this
        omega
  rcases hcases with rfl | rfl
  · split
    · rfl
    · split <;> omega
  · have hnext : (quotient + 1) * den = quotient * den + den := Nat.succ_mul quotient den
    split
    · omega
    · split
      · rfl
      · omega

/-! ## The nearest magnitude -/

/-- The nearest magnitude to a ratio of a known scale. -/
theorem nearestMagnitude_of_scale {num den scale significand : Nat} (hden : 0 < den)
    (hbelow : num < 2 * binade * (2 ^ scale * den))
    (habove : 0 < scale → binade * (2 ^ scale * den) ≤ num)
    (hnearest : nearestEven num (2 ^ scale * den) = significand)
    (hfinite : scale * binade + significand < infinityMagnitude) :
    nearestMagnitude num den = scale * binade + significand := by
  have hbinade : 2 ^ (scale + 52) = binade * 2 ^ scale := by
    have h : 2 ^ 52 = binade := by decide
    rw [Nat.pow_add, h, Nat.mul_comm]
  have hnext : 2 ^ (scale + 53) = 2 * binade * 2 ^ scale := by
    rw [Nat.mul_assoc, ← hbinade, ← Nat.pow_succ']
  have hlog : (num / den).log2 - 52 = scale := by
    have hlt : num / den < 2 ^ (scale + 53) := by
      rw [Nat.div_lt_iff_lt_mul hden, hnext, Nat.mul_assoc]
      exact hbelow
    by_cases hscale : 0 < scale
    · have hle : 2 ^ (scale + 52) ≤ num / den := by
        rw [Nat.le_div_iff_mul_le hden, hbinade, Nat.mul_assoc]
        exact habove hscale
      have hne : num / den ≠ 0 := by
        have := Nat.two_pow_pos (scale + 52)
        omega
      rw [(Nat.log2_eq_iff hne).mpr ⟨hle, hlt⟩, Nat.add_sub_cancel]
    · -- At the lowest scale a ratio may have any size below the next one.
      obtain rfl : scale = 0 := by omega
      by_cases hne : num / den = 0
      · rw [hne]
        rfl
      · have := (Nat.log2_lt hne).mpr hlt
        omega
  rw [nearestMagnitude]
  simp only [hlog, Nat.shiftLeft_eq, Nat.mul_comm den, hnearest]
  exact Nat.min_eq_left (Nat.le_of_lt hfinite)

/-- A ratio in the interval of a double is nearest to that double. -/
theorem nearestMagnitude_eq {x : Double} (hfinite : x.isFinite = true) (hx : x.magnitude ≠ 0)
    {num den : Nat} (hden : 0 < den) (h : (Decimal.interval x).Holds num den) :
    nearestMagnitude num den = x.magnitude := by
  have hfinite' : x.magnitude < infinityMagnitude := by simpa [isFinite] using hfinite
  have hsignificand := x.significand_lt
  have hbinade := binade_eq
  have hstep : 0 < 2 ^ x.scale * den := Nat.mul_pos (Nat.two_pow_pos _) hden
  have hlow := interval_low_mul hx den
  have hhigh := interval_high_mul x den
  have hopen : x.significand % 2 = 1 → (Decimal.interval x).closed = false := by
    intro hodd
    simp [Decimal.interval, hodd]
  obtain ⟨hlower, hupper, hstrict⟩ := h
  rw [magnitude_eq] at hfinite' ⊢
  by_cases hsame : 0 < x.scale → binade * (2 ^ x.scale * den) ≤ num
  · have hnext := Nat.mul_le_mul_right (2 ^ x.scale * den) (Nat.succ_le_of_lt hsignificand)
    rw [Nat.succ_mul] at hnext
    refine nearestMagnitude_of_scale hden (by omega) hsame ?_ hfinite'
    refine nearestEven_eq hstep ?_ (by omega) ?_
    · split at hlow <;> omega
    · intro hodd
      have := hstrict (hopen hodd)
      split at hlow <;> omega
  · -- The ratio lies below the power of two that the double is, at the scale before.
    obtain ⟨hscale, hless⟩ := Classical.not_imp.mp hsame
    have hleading : x.significand = binade := by
      rcases Nat.eq_or_lt_of_le (binade_le_significand hscale) with hleading | hmore
      · exact hleading.symm
      · have hproduct := Nat.mul_le_mul_right (2 ^ x.scale * den) (Nat.succ_le_of_lt hmore)
        rw [Nat.succ_mul] at hproduct
        rw [if_neg fun h => absurd h.1 (Nat.ne_of_gt hmore)] at hlow
        omega
    rw [hleading] at hlow hfinite' ⊢
    rw [if_pos ⟨rfl, hscale⟩] at hlow
    obtain ⟨t, ht⟩ : ∃ t, x.scale = t + 1 := ⟨x.scale - 1, by omega⟩
    have hhalf : 2 ^ x.scale * den = 2 * (2 ^ t * den) := by
      rw [ht, Nat.pow_succ', Nat.mul_assoc]
    have hmagnitude : x.scale * binade + binade = t * binade + 2 * binade := by
      rw [ht, Nat.succ_mul]
      omega
    rw [hhalf] at hlow hless
    rw [hmagnitude] at hfinite' ⊢
    rw [hbinade] at hlow hless
    have hpositive : 0 < 2 ^ t * den := Nat.mul_pos (Nat.two_pow_pos t) hden
    refine nearestMagnitude_of_scale hden ?_ (fun _ => ?_) ?_ hfinite'
    · rw [hbinade]
      omega
    · rw [hbinade]
      omega
    · refine nearestEven_eq hpositive ?_ ?_ fun hodd => ?_
      · rw [hbinade]
        omega
      · rw [hbinade]
        omega
      · omega

/-- A signed ratio whose size lies in the interval of a double of that sign rounds to the double. -/
theorem ofUnits_eq {x : Double} (hfinite : x.isFinite = true) (hx : x.magnitude ≠ 0)
    {num den : Nat} (hden : 0 < den) (h : (Decimal.interval x).Holds num den) :
    ofUnits x.negative num den = x := by
  rw [ofUnits, nearestMagnitude_eq hfinite hx hden h, ofMagnitude_magnitude]

end Double

end SqlStore
