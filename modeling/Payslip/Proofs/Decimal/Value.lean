/-
# The number that an amount stands for

Two amounts may be the same number and still differ in their scale or in the sign of a
zero. Whatever compares them as numbers does so by `Decimal.toRat`; this module says how
that number follows from the parts of an amount, and that leaving out zeros at the end of
the fraction does not change it.
-/

import Mathlib.Data.Rat.Floor
import Mathlib.Tactic.FieldSimp
import Mathlib.Tactic.Linarith
import Mathlib.Tactic.NormNum
import Mathlib.Tactic.Positivity
import Mathlib.Tactic.Ring
import Payslip.Decimal.Basic

namespace Payslip

theorem tenPow_eq_pow (n : ℕ) : tenPow n = 10 ^ n := by
  induction n with
  | zero => rfl
  | succ n ih => rw [tenPow_succ, ih, pow_succ]

theorem tenPow_cast_pos (n : ℕ) : (0 : ℚ) < tenPow n := Nat.cast_pos.mpr (tenPow_pos n)

theorem tenPow_add (m n : ℕ) : tenPow (m + n) = tenPow m * tenPow n := by
  simp only [tenPow_eq_pow, pow_add]

theorem tenPow_mono {m n : ℕ} (less : m ≤ n) : tenPow m ≤ tenPow n := by
  rw [tenPow_eq_pow, tenPow_eq_pow]
  exact Nat.pow_le_pow_right (by decide) less

namespace Decimal

/-- A number with the sign that an amount carries. -/
def signed (negative : Bool) (v : ℚ) : ℚ := if negative then -v else v

@[simp]
theorem signed_zero (negative : Bool) : signed negative 0 = 0 := by
  cases negative <;> simp [signed]

theorem units_cast (x : Decimal) : (x.units : ℚ) = signed x.negative x.coefficient := by
  rw [units, signed]
  split <;> simp

theorem natAbs_units (x : Decimal) : x.units.natAbs = x.coefficient := by
  rw [units]
  split <;> simp

theorem isNegative_iff_units_neg (x : Decimal) : x.isNegative = true ↔ x.units < 0 := by
  rw [isNegative, units, isZero]
  cases x.negative
  · simp
  · simp [Nat.pos_iff_ne_zero]

/-- An amount stands for its coefficient over a power of ten, with its sign. -/
theorem toRat_eq (x : Decimal) :
    x.toRat = signed x.negative (x.coefficient / tenPow x.scale) := by
  rw [toRat, Rat.mkRat_eq_div, units_cast, signed, signed]
  split
  · exact neg_div _ _
  · rfl

theorem toRat_eq_units_div (x : Decimal) : x.toRat = x.units / tenPow x.scale := by
  rw [toRat, Rat.mkRat_eq_div]

@[simp]
theorem toRat_zero : toRat 0 = 0 := rfl

theorem isZero_iff_toRat_eq_zero {x : Decimal} : x.isZero = true ↔ x.toRat = 0 := by
  have scale := (tenPow_cast_pos x.scale).ne'
  rw [toRat_eq, isZero, beq_iff_eq, signed]
  split
  · simp [scale]
  · simp [scale]

/-- An amount is below zero when it has a sign and is not zero. -/
theorem toRat_nonneg_iff {x : Decimal} : 0 ≤ x.toRat ↔ x.isNegative = false := by
  have scale := tenPow_cast_pos x.scale
  have magnitude : (0 : ℚ) ≤ x.coefficient / tenPow x.scale :=
    div_nonneg (Nat.cast_nonneg _) scale.le
  rw [toRat_eq, signed, isNegative]
  cases x.negative with
  | false => simpa using magnitude
  | true =>
      simp only [if_true, Left.nonneg_neg_iff, Bool.true_and, Bool.not_eq_false', isZero,
        beq_iff_eq]
      constructor
      · intro below
        have none := le_antisymm below magnitude
        rcases div_eq_zero_iff.mp none with coefficient | power
        · exact_mod_cast coefficient
        · exact absurd power scale.ne'
      · intro none
        simp [none]

/-! ## Leaving out zeros -/

theorem negative_strip {negative : Bool} {coefficient scale : ℕ} (inRange : coefficient < bound)
    (inScale : scale ≤ maxScale) :
    (normalize.strip negative coefficient scale inRange inScale).negative = negative := by
  induction scale generalizing coefficient with
  | zero => rfl
  | succ scale ih =>
      rw [normalize.strip]
      split
      · exact ih _ _
      · rfl

theorem toRat_strip {negative : Bool} {coefficient scale : ℕ} (inRange : coefficient < bound)
    (inScale : scale ≤ maxScale) :
    (normalize.strip negative coefficient scale inRange inScale).toRat =
      signed negative (coefficient / tenPow scale) := by
  induction scale generalizing coefficient with
  | zero => exact toRat_eq _
  | succ scale ih =>
      rw [normalize.strip]
      split
      · next zero =>
        have tenth : (coefficient : ℚ) = (coefficient / 10 : ℕ) * 10 := by
          exact_mod_cast (Nat.div_mul_cancel (Nat.dvd_of_mod_eq_zero zero)).symm
        have power : (tenPow (scale + 1) : ℚ) = tenPow scale * 10 := by
          rw [tenPow_succ, Nat.cast_mul, Nat.cast_ofNat]
        rw [ih, tenth, power, mul_div_mul_right _ _ (by norm_num)]
      · exact toRat_eq _

/-- Leaving out zeros at the end of the fraction keeps the number. -/
theorem toRat_normalize (x : Decimal) : x.normalize.toRat = x.toRat := by
  rw [normalize]
  split
  · next zero => rw [isZero_iff_toRat_eq_zero.mp zero, toRat_zero]
  · rw [toRat_strip, toRat_eq]

/-- What is left has a sign only if it is below zero. -/
theorem negative_normalize (x : Decimal) : x.normalize.negative = x.isNegative := by
  rw [normalize, isNegative]
  split
  · next zero =>
    rw [zero, Bool.not_true, Bool.and_false]
    rfl
  · next nonzero => simp [negative_strip, nonzero]

end Decimal

end Payslip
