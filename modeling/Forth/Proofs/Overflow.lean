/-
This file says which ratios are too large for floating point. A ratio is rounded
to the last place that is kept of it, so what matters is the binary place of its
first digit. Ratios below the last power of two keep a place and are never too
large, those above it always are, and in between the rounding decides: a ratio is
too large from halfway between the largest finite number and the power of two that
would come next, because this tie goes to the even neighbour.
-/

import Forth.Number.Basic
import Mathlib.Algebra.Order.Field.Power
import Mathlib.Tactic.Linarith
import Mathlib.Tactic.NormNum
import Mathlib.Tactic.Positivity
import Mathlib.Tactic.Ring

namespace Forth.Number

/-! ### The nearest whole number -/

/-- The nearest whole number is at most half a unit away, and less than that if it is odd. -/
theorem nearestEven_spec (numerator : Nat) {denominator : Nat} (positive : 0 < denominator) :
    let nearest := nearestEven numerator denominator
    2 * numerator ≤ (2 * nearest + 1) * denominator ∧
      2 * nearest * denominator ≤ 2 * numerator + denominator ∧
      (nearest % 2 = 1 → 2 * numerator < (2 * nearest + 1) * denominator) := by
  intro nearest
  have whole := Nat.div_add_mod numerator denominator
  have remainder := Nat.mod_lt numerator positive
  have nearestEq : nearest = nearestEven numerator denominator := rfl
  clear_value nearest
  unfold nearestEven at nearestEq
  generalize numerator / denominator = quotient at whole nearestEq
  generalize numerator % denominator = rest at whole nearestEq remainder
  have next : denominator * (quotient + 1) = denominator * quotient + denominator :=
    Nat.mul_succ denominator quotient
  -- The products are all multiples of the denominator by the quotient or the nearest number.
  rw [Nat.add_mul, Nat.one_mul, Nat.mul_assoc, Nat.mul_comm nearest]
  simp only at nearestEq
  split at nearestEq
  next =>
    subst nearestEq
    omega
  next =>
    split at nearestEq
    next =>
      subst nearestEq
      omega
    next =>
      obtain even | odd := Nat.mod_two_eq_zero_or_one quotient
      · rw [even, Nat.add_zero] at nearestEq
        subst nearestEq
        omega
      · rw [odd] at nearestEq
        subst nearestEq
        omega

theorem le_nearestEven {numerator denominator bound : Nat} (positive : 0 < denominator)
    (least : bound * denominator ≤ numerator) : bound ≤ nearestEven numerator denominator := by
  obtain ⟨above, -, -⟩ := nearestEven_spec numerator positive
  have product : 2 * bound * denominator ≤
      (2 * nearestEven numerator denominator + 1) * denominator := by
    rw [Nat.mul_assoc]
    omega
  have := Nat.le_of_mul_le_mul_right product positive
  omega

theorem nearestEven_le {numerator denominator bound : Nat} (positive : 0 < denominator)
    (most : numerator ≤ bound * denominator) : nearestEven numerator denominator ≤ bound := by
  obtain ⟨-, below, -⟩ := nearestEven_spec numerator positive
  have product : 2 * nearestEven numerator denominator * denominator ≤
      (2 * bound + 1) * denominator := by
    rw [Nat.add_mul, Nat.one_mul, Nat.mul_assoc 2 bound]
    omega
  have := Nat.le_of_mul_le_mul_right product positive
  omega

/-- The nearest whole number is less than an even one if the ratio is not even halfway between it
and the odd one below, since the tie goes to the even one. -/
theorem nearestEven_lt_even_iff (numerator half : Nat) {denominator : Nat}
    (positive : 0 < denominator) :
    nearestEven numerator denominator < 2 * half ↔
      2 * numerator + denominator < 4 * half * denominator := by
  obtain ⟨above, below, odd⟩ := nearestEven_spec numerator positive
  generalize nearestEven numerator denominator = nearest at above below odd ⊢
  constructor
  · intro less
    obtain isOdd | further : nearest % 2 = 1 ∨ 2 * nearest + 2 < 4 * half := by omega
    · have strict := odd isOdd
      calc 2 * numerator + denominator
          < (2 * nearest + 1) * denominator + denominator := Nat.add_lt_add_right strict _
        _ = (2 * nearest + 2) * denominator := by ring
        _ ≤ 4 * half * denominator := Nat.mul_le_mul_right _ (by omega)
    · calc 2 * numerator + denominator
          ≤ (2 * nearest + 1) * denominator + denominator := Nat.add_le_add_right above _
        _ = (2 * nearest + 2) * denominator := by ring
        _ < 4 * half * denominator := Nat.mul_lt_mul_of_pos_right further positive
  · intro less
    have product : 2 * nearest * denominator < 4 * half * denominator := below.trans_lt less
    have := Nat.lt_of_mul_lt_mul_right product
    omega

/-! ### The last place that is kept -/

theorem scaledDenominator_succ (denominator exponent : Nat) :
    scaledDenominator denominator ((exponent + 1 : Nat) : Int) =
      2 * (2 ^ exponent * denominator) := by
  have scaled : scaledDenominator denominator ((exponent + 1 : Nat) : Int) =
      denominator * 2 ^ (exponent + 1) := rfl
  rw [scaled]
  ring

theorem scaledDenominator_pos {denominator : Nat} (positive : 0 < denominator) (exponent : Int) :
    0 < scaledDenominator denominator exponent :=
  Nat.mul_pos positive (Nat.pow_pos Nat.two_pos)

/-- Scaling divides a ratio by a power of two. -/
theorem scaled_ratio (numerator denominator : Nat) (exponent : Int) :
    (scaledNumerator numerator exponent : ℚ) / scaledDenominator denominator exponent =
      (numerator : ℚ) / denominator / 2 ^ exponent := by
  unfold scaledNumerator scaledDenominator
  obtain ⟨size, rfl | rfl⟩ := exponent.eq_nat_or_neg
  · simp [div_div]
  · simp [div_eq_mul_inv, mul_right_comm]

theorem mul_scaledDenominator_le_iff (numerator : Nat) {denominator : Nat}
    (positive : 0 < denominator) (exponent : Int) (factor : Nat) :
    factor * scaledDenominator denominator exponent ≤ scaledNumerator numerator exponent ↔
      (factor : ℚ) * 2 ^ exponent ≤ (numerator : ℚ) / denominator := by
  have scaled : (0 : ℚ) < scaledDenominator denominator exponent :=
    Nat.cast_pos.2 (scaledDenominator_pos positive exponent)
  have power : (0 : ℚ) < 2 ^ exponent := zpow_pos two_pos exponent
  rw [← le_div_iff₀ power, ← scaled_ratio, le_div_iff₀ scaled]
  norm_cast

/-- The logarithm of a ratio, rounded down, tells between which powers of two it lies. -/
theorem floorLog_spec {numerator denominator : Nat} (nonzero : numerator ≠ 0)
    (positive : 0 < denominator) :
    (2 : ℚ) ^ floorLog numerator denominator ≤ (numerator : ℚ) / denominator ∧
      (numerator : ℚ) / denominator < 2 ^ (floorLog numerator denominator + 1) := by
  have denominatorPos : (0 : ℚ) < denominator := Nat.cast_pos.2 positive
  have two : (2 : ℚ) ≠ 0 := two_ne_zero
  have numeratorLeast : (2 : ℚ) ^ (numerator.log2 : Int) ≤ numerator := by
    exact_mod_cast Nat.log2_self_le nonzero
  have numeratorMost : (numerator : ℚ) < 2 ^ ((numerator.log2 : Int) + 1) := by
    exact_mod_cast Nat.lt_log2_self (n := numerator)
  have denominatorLeast : (2 : ℚ) ^ (denominator.log2 : Int) ≤ denominator := by
    exact_mod_cast Nat.log2_self_le positive.ne'
  have denominatorMost : (denominator : ℚ) < 2 ^ ((denominator.log2 : Int) + 1) := by
    exact_mod_cast Nat.lt_log2_self (n := denominator)
  -- The bit lengths leave two powers of two for the ratio to lie between.
  have least : (2 : ℚ) ^ ((numerator.log2 : Int) - denominator.log2 - 1) ≤
      (numerator : ℚ) / denominator := by
    rw [sub_sub, zpow_sub₀ two]
    exact div_le_div₀ (by positivity) numeratorLeast denominatorPos denominatorMost.le
  have most : (numerator : ℚ) / denominator <
      2 ^ ((numerator.log2 : Int) - denominator.log2 + 1) := by
    rw [sub_add_eq_add_sub, zpow_sub₀ two]
    exact div_lt_div₀ numeratorMost denominatorLeast (by positivity) (by positivity)
  have decided := mul_scaledDenominator_le_iff numerator positive
    ((numerator.log2 : Int) - denominator.log2) 1
  rw [Nat.one_mul, Nat.cast_one, one_mul] at decided
  unfold floorLog
  simp only
  split
  next above => exact ⟨decided.1 above, most⟩
  next below =>
    rw [sub_add_cancel]
    exact ⟨least, not_le.1 (mt decided.2 below)⟩

theorem lt_two_pow_mul {numerator denominator : Nat} (bits : Nat) (nonzero : numerator ≠ 0)
    (positive : 0 < denominator) (small : floorLog numerator denominator < bits) :
    numerator < 2 ^ bits * denominator := by
  obtain ⟨-, most⟩ := floorLog_spec nonzero positive
  have higher : (2 : ℚ) ^ (floorLog numerator denominator + 1) ≤ 2 ^ (bits : Int) :=
    zpow_le_zpow_right₀ one_le_two small
  have scaled := (div_lt_iff₀ (Nat.cast_pos.2 positive)).1 (most.trans_le higher)
  exact_mod_cast scaled

theorem two_pow_mul_le {numerator denominator : Nat} (bits : Nat) (nonzero : numerator ≠ 0)
    (positive : 0 < denominator) (large : bits ≤ floorLog numerator denominator) :
    2 ^ bits * denominator ≤ numerator := by
  obtain ⟨least, -⟩ := floorLog_spec nonzero positive
  have lower : (2 : ℚ) ^ (bits : Int) ≤ 2 ^ floorLog numerator denominator :=
    zpow_le_zpow_right₀ one_le_two large
  have scaled := (le_div_iff₀ (Nat.cast_pos.2 positive)).1 (lower.trans least)
  exact_mod_cast scaled

/-- At its last place, a ratio that is not zero rounds to at most 53 bits and a carry, and to no
less than 53 bits unless the place is the last of all. -/
theorem nearestEven_lastPlace {numerator denominator : Nat} (nonzero : numerator ≠ 0)
    (positive : 0 < denominator) :
    let place := lastPlace numerator denominator
    let significand := nearestEven (scaledNumerator numerator place)
      (scaledDenominator denominator place)
    significand ≤ 2 ^ 53 ∧ (leastPlace < place → 2 ^ 52 ≤ significand) := by
  intro place significand
  obtain ⟨least, most⟩ := floorLog_spec nonzero positive
  have placeEq : place = max (floorLog numerator denominator - 52) leastPlace := rfl
  clear_value place
  have scaledPos := scaledDenominator_pos positive place
  have powers (bits : Nat) : ((2 ^ bits : Nat) : ℚ) * 2 ^ place = 2 ^ (bits + place) := by
    rw [zpow_add₀ two_ne_zero, zpow_natCast, Nat.cast_pow, Nat.cast_ofNat]
  constructor
  · refine nearestEven_le scaledPos (Nat.le_of_not_le fun above => ?_)
    have more := (mul_scaledDenominator_le_iff numerator positive place _).1 above
    rw [powers] at more
    have higher : (2 : ℚ) ^ (floorLog numerator denominator + 1) ≤ 2 ^ ((53 : Nat) + place) :=
      zpow_le_zpow_right₀ one_le_two (by omega)
    exact absurd (more.trans_lt most) (not_lt.2 higher)
  · intro normal
    refine le_nearestEven scaledPos ((mul_scaledDenominator_le_iff _ positive _ _).2 ?_)
    rw [powers, show ((52 : Nat) : Int) + place = floorLog numerator denominator by omega]
    exact least

/-! ### Ratios that are too large -/

/-- The least magnitude that is too large for floating point: the largest finite number and half a
unit of its last place. -/
def overflowThreshold : Nat := 2 ^ 1024 - 2 ^ 970

theorem overflowThreshold_eq : overflowThreshold = (2 ^ 54 - 1) * 2 ^ 970 := by
  rw [overflowThreshold, Nat.sub_mul, ← Nat.pow_add, Nat.one_mul]

theorem two_pow_le_overflowThreshold : 2 ^ 1023 ≤ overflowThreshold := by
  have factors : 2 ^ 1023 = 2 ^ 53 * 2 ^ 970 := by rw [← Nat.pow_add]
  rw [overflowThreshold_eq, factors]
  generalize 2 ^ 970 = unit
  omega

theorem overflowThreshold_le_two_pow : overflowThreshold ≤ 2 ^ 1024 :=
  Nat.sub_le _ _

/-- A ratio is too large for floating point from the threshold on. The place of the largest finite
numbers is the only one at which the rounding decides. -/
theorem ratioBits_lt_infinityBits_iff (numerator : Nat) {denominator : Nat}
    (positive : 0 < denominator) :
    ratioBits numerator denominator < infinityBits ↔
      numerator < overflowThreshold * denominator := by
  by_cases zero : numerator = 0
  · have thresholdPos : 0 < overflowThreshold :=
      (Nat.pow_pos Nat.two_pos).trans_le two_pow_le_overflowThreshold
    rw [ratioBits, if_pos zero, zero]
    exact iff_of_true (by decide) (Nat.mul_pos thresholdPos positive)
  obtain ⟨short, long⟩ := nearestEven_lastPlace zero positive
  have placeEq : lastPlace numerator denominator =
      max (floorLog numerator denominator - 52) (-1074) := rfl
  have infinityEq : infinityBits = 2047 * 2 ^ 52 := rfl
  rw [ratioBits, if_neg zero]
  simp only [show leastPlace = -1074 from rfl, show Nat.pow 2 52 = 2 ^ 52 from rfl] at long ⊢
  rw [infinityEq]
  obtain below | same | above := lt_trichotomy (lastPlace numerator denominator) 971
  · have less := lt_two_pow_mul 1023 zero positive (by omega)
    refine iff_of_true (by omega) (less.trans_le (Nat.mul_le_mul_right _ ?_))
    exact two_pow_le_overflowThreshold
  · rw [same] at short ⊢
    have carries := nearestEven_lt_even_iff (scaledNumerator numerator 971) (2 ^ 52)
      (scaledDenominator_pos positive 971)
    have numeratorEq : scaledNumerator numerator 971 = numerator := Nat.mul_one numerator
    have denominatorEq : scaledDenominator denominator 971 = 2 * (2 ^ 970 * denominator) :=
      scaledDenominator_succ denominator 970
    rw [numeratorEq, denominatorEq] at carries short
    rw [overflowThreshold_eq, Nat.mul_assoc, numeratorEq, denominatorEq]
    generalize 2 ^ 970 * denominator = unit at carries short ⊢
    omega
  · have more := two_pow_mul_le 1024 zero positive (by omega)
    refine iff_of_false (by omega) (Nat.not_lt.2 (le_trans (Nat.mul_le_mul_right _ ?_) more))
    exact overflowThreshold_le_two_pow

/-- There is no floating point number next to a ratio from the threshold on. -/
theorem roundRatio?_eq_none_iff (negative : Bool) (numerator : Nat) {denominator : Nat}
    (positive : 0 < denominator) :
    roundRatio? negative numerator denominator = none ↔
      overflowThreshold * denominator ≤ numerator := by
  unfold roundRatio?
  rw [← Nat.not_lt, ← ratioBits_lt_infinityBits_iff numerator positive]
  simp

end Forth.Number
