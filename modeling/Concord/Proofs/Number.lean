/-
Doubles that stay within a bound. Rounding a ratio never passes an integer that the ratio does not pass,
as long as the integer has at most as many bits as a significand: below such a bound the exponent of the
result is not positive, so the bound itself is among the values that rounding may choose.
-/

import Concord.Number.Decimal
import Mathlib.Data.Nat.Basic
import Mathlib.Tactic.Ring

namespace Concord

/-! ### Rounding to an integer -/

theorem roundHalfEven_le {numerator denominator bound : Nat}
    (within : numerator ≤ bound * denominator) : roundHalfEven numerator denominator ≤ bound := by
  rcases Nat.eq_zero_or_pos denominator with rfl | positive
  · have none : numerator = 0 := by omega
    simp [none, roundHalfEven]
  · have split := Nat.div_add_mod numerator denominator
    have quotient : numerator / denominator ≤ bound := Nat.div_le_of_le_mul (by rwa [Nat.mul_comm])
    rcases quotient.lt_or_eq with less | same
    · exact (roundHalfEven_le_succ numerator denominator).trans less
    · -- at the bound itself nothing remains, so nothing is rounded up
      have none : numerator % denominator = 0 := by
        rw [same, Nat.mul_comm] at split
        omega
      simp [roundHalfEven, none, positive, same]

namespace Binary64

/-! ### Powers of two -/

theorem scaleUp_of_nonpos {exponent : Int} (nonpositive : exponent ≤ 0) : scaleUp exponent = 1 := by
  rw [scaleUp, Int.toNat_of_nonpos nonpositive, Nat.pow_eq, Nat.pow_zero]

theorem scaleUp_succ {exponent : Int} (natural : 0 ≤ exponent) :
    scaleUp (exponent + 1) = 2 * scaleUp exponent := by
  rw [scaleUp, scaleUp, Int.toNat_add natural (by decide), Nat.pow_eq, Nat.pow_eq]
  exact Nat.pow_succ'

theorem scaleUp_pos (exponent : Int) : 0 < scaleUp exponent :=
  Nat.two_pow_pos _

/-- The magnitude is that of a power of two that does not exceed the ratio. -/
theorem pow_le_of_le_magnitude {numerator denominator power : Nat} (isPositive : numerator ≠ 0)
    (low : (power : Int) ≤ magnitude numerator denominator) :
    denominator * 2 ^ power ≤ numerator := by
  unfold magnitude at low
  dsimp only at low
  split at low
  · calc denominator * 2 ^ power
        ≤ 2 ^ (denominator.log2 + 1) * 2 ^ power :=
          Nat.mul_le_mul_right _ Nat.lt_log2_self.le
      _ = 2 ^ (denominator.log2 + 1 + power) := (Nat.pow_add ..).symm
      _ ≤ 2 ^ numerator.log2 := Nat.pow_le_pow_right (by decide) (by omega)
      _ ≤ numerator := Nat.log2_self_le isPositive
  · rename_i reached
    have opposite : scaleUp (-((numerator.log2 : Int) - denominator.log2)) = 1 :=
      scaleUp_of_nonpos (by omega)
    rw [Nat.not_lt, opposite, Nat.mul_one] at reached
    refine (Nat.mul_le_mul_left _ ?_).trans reached
    exact Nat.pow_le_pow_right (by decide) (by omega)

/-- A ratio below `2 ^ 53` has no greater power of two below it than `2 ^ 52`. -/
theorem magnitude_le {numerator denominator bound : Nat} (isPositive : numerator ≠ 0)
    (positive : 0 < denominator) (within : numerator ≤ bound * denominator)
    (small : bound < 2 ^ precision) : magnitude numerator denominator ≤ precision - 1 := by
  by_contra exceeds
  have reached : denominator * 2 ^ precision ≤ numerator :=
    pow_le_of_le_magnitude isPositive (by omega)
  rw [Nat.mul_comm bound] at within
  exact absurd (Nat.le_of_mul_le_mul_left (reached.trans within) positive) (Nat.not_le.2 small)

/-! ### Within a bound -/

/-- A finite double that is neither negative nor greater than the bound. -/
def IsWithin (bound : Nat) (value : Binary64) : Prop :=
  ∃ significand exponent, value = .finite false significand exponent ∧
    significand * scaleUp exponent ≤ bound * scaleUp (-exponent)

/-- Rounding does not pass an integer of at most 53 bits. -/
theorem isWithin_ofRatio {numerator denominator bound : Nat} (positive : 0 < denominator)
    (within : numerator ≤ bound * denominator) (small : bound < 2 ^ precision) :
    (ofRatio false numerator denominator).IsWithin bound := by
  by_cases isZero : numerator = 0
  · exact ⟨0, leastExponent, by rw [ofRatio, if_pos isZero, zero], by simp⟩
  · have least := magnitude_le isZero positive within small
    rw [ofRatio, if_neg isZero]
    generalize isExponent : max (magnitude numerator denominator - (precision - 1)) leastExponent =
      exponent
    have nonpositive : exponent ≤ 0 := by
      simp only [leastExponent] at isExponent
      omega
    simp only [scaleUp_of_nonpos nonpositive, Nat.mul_one]
    have rounded : roundHalfEven (numerator * scaleUp (-exponent)) denominator ≤
        bound * scaleUp (-exponent) := by
      refine roundHalfEven_le ?_
      rw [Nat.mul_right_comm]
      exact Nat.mul_le_mul_right _ within
    split
    · -- a significand that has grown by one bit is halved
      rename_i full
      rw [full] at rounded
      have negative : exponent ≠ 0 := by
        rintro rfl
        exact absurd rounded (Nat.not_le.2 (by simpa [scaleUp] using small))
      rw [if_neg (by simp only [greatestExponent]; omega)]
      refine ⟨_, _, rfl, ?_⟩
      have halved : scaleUp (-exponent) = 2 * scaleUp (-(exponent + 1)) := by
        rw [← scaleUp_succ (by omega)]
        congr 1
        omega
      rw [scaleUp_of_nonpos (by omega), Nat.mul_one]
      rw [halved, ← Nat.mul_assoc, Nat.mul_right_comm] at rounded
      simp only [precision, Nat.pow_eq] at rounded ⊢
      omega
    · rw [if_neg (by simp only [greatestExponent]; omega)]
      refine ⟨_, _, rfl, ?_⟩
      rwa [scaleUp_of_nonpos nonpositive, Nat.mul_one]

theorem isWithin_ofExact {numerator denominator bound : Nat} (positive : 0 < denominator)
    (within : numerator ≤ bound * denominator) (small : bound < 2 ^ precision) :
    (ofExact ⟨numerator, denominator⟩).IsWithin bound := by
  have isPositive : decide ((numerator : Int) < 0) = false := by simp
  rw [ofExact, isPositive, Int.natAbs_natCast]
  exact isWithin_ofRatio positive within small

theorem isWithin_ofInt {bound : Nat} (small : bound < 2 ^ precision) :
    (ofInt bound).IsWithin bound :=
  isWithin_ofExact Nat.one_pos (Nat.mul_one bound).ge small

variable {value first second : Binary64} {bound firstBound secondBound : Nat}

theorem IsWithin.mul (isFirst : first.IsWithin firstBound) (isSecond : second.IsWithin secondBound)
    (small : firstBound * secondBound < 2 ^ precision) :
    (first.mul second).IsWithin (firstBound * secondBound) := by
  obtain ⟨significand, exponent, rfl, isBelow⟩ := isFirst
  obtain ⟨factor, power, rfl, isSmaller⟩ := isSecond
  have positive : 0 < scaleUp (-exponent) * scaleUp (-power) :=
    Nat.mul_pos (scaleUp_pos _) (scaleUp_pos _)
  have within := Nat.mul_le_mul isBelow isSmaller
  rw [Nat.mul_mul_mul_comm firstBound] at within
  simp only [mul, ratio?, Bool.false_eq_true, if_false, ← Nat.cast_mul]
  exact isWithin_ofExact positive within small

theorem IsWithin.rounded (within : value.IsWithin bound) (small : bound < 2 ^ precision)
    (places : Nat) : (Decimal.rounded places value).IsWithin bound := by
  obtain ⟨significand, exponent, rfl, le⟩ := within
  refine isWithin_ofRatio (Nat.pow_pos (by decide)) (roundHalfEven_le ?_) small
  calc significand * scaleUp exponent * Nat.pow 10 places
      ≤ bound * scaleUp (-exponent) * Nat.pow 10 places := Nat.mul_le_mul_right _ le
    _ = bound * Nat.pow 10 places * scaleUp (-exponent) := by ring

theorem IsWithin.not_less_zero (within : value.IsWithin bound) :
    Number.less (.double value) (.integer 0) = false := by
  obtain ⟨significand, exponent, rfl, -⟩ := within
  simp only [Number.less, Number.extended, extended, ratio?, Extended.less, Bool.false_eq_true,
    if_false, decide_eq_false_iff_not]
  omega

theorem IsWithin.not_greater (within : value.IsWithin bound) :
    Number.less (.integer bound) (.double value) = false := by
  obtain ⟨significand, exponent, rfl, le⟩ := within
  simp only [Number.less, Number.extended, extended, ratio?, Extended.less, Bool.false_eq_true,
    if_false, decide_eq_false_iff_not, ← Nat.cast_mul, Nat.cast_lt, Nat.mul_one]
  omega

end Binary64

end Concord
