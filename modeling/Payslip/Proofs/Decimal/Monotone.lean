/-
# Rounding keeps the order

The scale at which a result is rounded hangs on its size, so the larger of two numbers may be
rounded more coarsely than the smaller one, and up or down regardless of it. The order survives all
the same: where the scale changes there is a number on both grids that neither of them passes.
`nearestTo_mono` says so for all numbers, of either sign and in range or not, and every operation on
amounts inherits it.
-/

import Payslip.Proofs.Decimal.Precision

namespace Payslip

variable {v w : ℚ} {n : ℤ}

theorem nearestAway_mono (less : v ≤ w) : nearestAway v ≤ nearestAway w := by
  rw [nearestAway, nearestAway]
  split
  · next nonneg =>
    rw [if_pos (nonneg.trans less)]
    exact Int.floor_le_floor (by linarith)
  · next below =>
    split
    · next nonneg =>
      have lower : 0 ≤ ⌊-v + 1 / 2⌋ := Int.floor_nonneg.mpr (by linarith)
      have upper : 0 ≤ ⌊w + 1 / 2⌋ := Int.floor_nonneg.mpr (by linarith)
      omega
    · exact neg_le_neg (Int.floor_le_floor (by linarith))

namespace Decimal

/-- The first amount is no larger a number than the second. -/
def AtMost (x y : Decimal) : Prop := x.toRat ≤ y.toRat

theorem AtMost.refl (x : Decimal) : x.AtMost x := le_refl x.toRat

variable {scale : ℕ}

/-! ## At one scale -/

theorem roundAt_mono (less : v ≤ w) (scale : ℕ) : roundAt v scale ≤ roundAt w scale := by
  have power := tenPow_cast_pos scale
  have scaled := nearestEven_mono (mul_le_mul_of_nonneg_right less power.le)
  rw [roundAt, roundAt, div_le_div_iff_of_pos_right power]
  exact_mod_cast scaled

/-- Rounding does not go beyond a number that is whole at the scale. -/
theorem roundAt_le (whole : w * tenPow scale = n) (less : v ≤ w) : roundAt v scale ≤ w := by
  have power := tenPow_cast_pos scale
  have scaled := nearestEven_mono (mul_le_mul_of_nonneg_right less power.le)
  rw [whole, nearestEven_intCast] at scaled
  rw [roundAt, div_le_iff₀ power, whole]
  exact_mod_cast scaled

/-! ## Across scales -/

/-- The larger a number, the less room it has. -/
theorem lastScale_anti (less : |v| ≤ |w|) : lastScale w ≤ lastScale v :=
  Nat.findGreatest_mono_left (fun _ fits => fits.of_abs_le less) maxScale

/-- Behind its last scale a number has no room. -/
theorem not_fits_of_lastScale_lt (finer : lastScale v < scale) (inScale : scale ≤ maxScale) :
    ¬ Fits v scale :=
  Nat.findGreatest_is_greatest finer inScale

/-- What has no room with one digit more is rounded to this number of units or to more of them. -/
theorem nearestEven_edge : nearestEven ((bound - 1 / 2) / 10) = Rounding.halfEven bound 10 := by
  have value : Rounding.halfEven bound 10 = 7922816251426433759354395034 := by decide
  rw [value, nearestEven_eq_iff]
  left
  norm_num [bound, abs_lt]

theorem nearestTo_mono_of_nonneg (nonneg : 0 ≤ v) (less : v ≤ w) :
    nearestTo v ≤ nearestTo w := by
  have smaller : |v| ≤ |w| := abs_le_abs_of_nonneg nonneg less
  rcases (lastScale_anti smaller).eq_or_lt with same | finer
  · rw [nearestTo, nearestTo, same]
    exact roundAt_mono less _
  -- the least that `w` can be rounded to lies between the two results
  have within : lastScale v ≤ maxScale := Nat.findGreatest_le maxScale
  have full : ¬ Fits w (lastScale w + 1) := not_fits_of_lastScale_lt (Nat.lt_succ_self _)
    (by omega)
  have room : Fits v (lastScale w + 1) :=
    (Nat.findGreatest_of_ne_zero (P := Fits v) (n := maxScale) rfl (by
      show lastScale v ≠ 0
      omega)).of_le finer
  have power := tenPow_cast_pos (lastScale w)
  have next : (tenPow (lastScale w + 1) : ℚ) = 10 * tenPow (lastScale w) := by
    rw [tenPow_succ, Nat.cast_mul, Nat.cast_ofNat, mul_comm]
  rw [Fits, abs_of_nonneg (nonneg.trans less), next, not_lt] at full
  rw [Fits, abs_of_nonneg nonneg, next] at room
  have edge : (Rounding.halfEven bound 10 : ℚ) / tenPow (lastScale w) * tenPow (lastScale w) =
      (Rounding.halfEven bound 10 : ℤ) := by
    rw [div_mul_cancel₀ _ power.ne', Int.cast_natCast]
  calc nearestTo v
      ≤ (Rounding.halfEven bound 10 : ℚ) / tenPow (lastScale w) := by
        refine roundAt_le (whole_of_le edge finer.le) ?_
        have value : Rounding.halfEven bound 10 = 7922816251426433759354395034 := by decide
        rw [le_div_iff₀ power, value]
        norm_num [bound] at room ⊢
        linarith
    _ ≤ nearestTo w := by
        rw [nearestTo, roundAt, div_le_div_iff_of_pos_right power]
        have reached : nearestEven ((bound - 1 / 2) / 10) ≤
            nearestEven (w * tenPow (lastScale w)) := nearestEven_mono (by linarith)
        rw [nearestEven_edge] at reached
        exact_mod_cast reached

theorem nearestTo_neg (v : ℚ) : nearestTo (-v) = -nearestTo v := by
  have same : lastScale (-v) = lastScale v :=
    le_antisymm (lastScale_anti (abs_neg v).ge) (lastScale_anti (abs_neg v).le)
  rw [nearestTo, nearestTo, same, roundAt, roundAt, neg_mul, nearestEven_neg, Int.cast_neg,
    neg_div]

/-- Rounding at the last scale keeps the order. -/
theorem nearestTo_mono (less : v ≤ w) : nearestTo v ≤ nearestTo w := by
  rcases le_total 0 v with nonneg | below
  · exact nearestTo_mono_of_nonneg nonneg less
  rcases le_total 0 w with above | below'
  · have lower : 0 ≤ nearestTo (-v) := nearestTo_nonneg (neg_nonneg.mpr below)
    rw [nearestTo_neg, neg_nonneg] at lower
    exact lower.trans (nearestTo_nonneg above)
  · have mirrored := nearestTo_mono_of_nonneg (neg_nonneg.mpr below') (neg_le_neg less)
    rw [nearestTo_neg, nearestTo_neg, neg_le_neg_iff] at mirrored
    exact mirrored

/-! ## Amounts -/

theorem fits_toRat (x : Decimal) : Fits x.toRat 0 := by
  by_contra large
  have kept := nearest?_toRat x
  rw [nearest?_eq_none large] at kept
  cases kept

theorem fits_toRat_div (x : Decimal) (large : 1 ≤ v) : Fits (x.toRat / v) 0 := by
  refine x.fits_toRat.of_abs_le ?_
  rw [abs_div, abs_of_pos (one_pos.trans_le large)]
  exact div_le_self (abs_nonneg x.toRat) large

theorem nearestTo_toRat (x : Decimal) : nearestTo x.toRat = x.toRat :=
  (eq_nearestTo_of_nearest? (nearest?_toRat x)).symm

/-- The nearest amount to a number below an amount is not above that. -/
theorem nearestTo_le_toRat {x : Decimal} (less : v ≤ x.toRat) : nearestTo v ≤ x.toRat :=
  (nearestTo_mono less).trans_eq (nearestTo_toRat x)

section Results

variable {result : Option Decimal} {x x' y y' z z' : Decimal}

/-- The number of a result that is the nearest amount, if there is one. -/
theorem toRat_eq_nearestTo (nearest : result.map toRat = nearest? v) (found : result = some z) :
    z.toRat = nearestTo v := by
  rw [found] at nearest
  exact eq_nearestTo_of_nearest? nearest.symm

/-- Where there is room there is such a result. -/
theorem exists_toRat_eq_nearestTo (nearest : result.map toRat = nearest? v) (fits : Fits v 0) :
    ∃ z, result = some z ∧ z.toRat = nearestTo v := by
  rw [nearest?_of_fits fits] at nearest
  exact Option.map_eq_some_iff.mp nearest

/-- Dividing by one or more always has a result. -/
theorem exists_div? (x : Decimal) (large : 1 ≤ y.toRat) :
    ∃ z, x.div? y = some z ∧ z.toRat = nearestTo (x.toRat / y.toRat) :=
  exists_toRat_eq_nearestTo (toRat_div? x (one_pos.trans_le large).ne') (x.fits_toRat_div large)

theorem AtMost.add? (first : x.AtMost x') (second : y.AtMost y') (added : x.add? y = some z)
    (added' : x'.add? y' = some z') : z.AtMost z' := by
  rw [AtMost, toRat_eq_nearestTo (toRat_add? x y) added,
    toRat_eq_nearestTo (toRat_add? x' y') added']
  exact nearestTo_mono (add_le_add first second)

theorem AtMost.sub? (first : x.AtMost x') (second : y'.AtMost y)
    (subtracted : x.sub? y = some z) (subtracted' : x'.sub? y' = some z') : z.AtMost z' := by
  rw [AtMost, toRat_eq_nearestTo (toRat_sub? x y) subtracted,
    toRat_eq_nearestTo (toRat_sub? x' y') subtracted']
  exact nearestTo_mono (sub_le_sub first second)

theorem AtMost.roundTo (less : x.AtMost x') (places : ℕ) :
    (x.roundTo places).AtMost (x'.roundTo places) := by
  have power := tenPow_cast_pos places
  have scaled := nearestAway_mono (mul_le_mul_of_nonneg_right less power.le)
  rw [AtMost, toRat_roundTo, toRat_roundTo, div_le_div_iff_of_pos_right power]
  exact_mod_cast scaled

end Results

end Decimal

end Payslip
