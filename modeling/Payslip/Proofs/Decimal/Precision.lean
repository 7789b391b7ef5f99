/-
# How far the nearest amount is off

An operation rounds its exact result at the last scale at which it has room. This module says what
that does to the number: it moves by at most half a unit of any scale at which it fits, and never
past a number that needs no more digits than that.

The delicate case is a number on a coarse grid from which a little has been lost before. Whether it
is found again hangs on the loss alone: `OnGrid.nearestTo_sub` rounds the loss in place of the
number.
-/

import Payslip.Proofs.Decimal.Quotient

namespace Payslip

variable {v w : ℚ} {n : ℤ}

theorem nearestEven_mono (less : v ≤ w) : nearestEven v ≤ nearestEven w := by
  by_contra greater
  have apart : (nearestEven w : ℚ) + 1 ≤ nearestEven v := by
    exact_mod_cast Int.add_one_le_of_lt (not_le.mp greater)
  have first := abs_le.mp (abs_sub_nearestEven_le v)
  have second := abs_le.mp (abs_sub_nearestEven_le w)
  -- both are half a unit off, towards each other, so they are one and the same number
  have same : v = w := le_antisymm less (by linarith)
  exact greater (same ▸ le_refl _)

/-- An even whole number can be taken out. -/
theorem nearestEven_sub_of_even (even : Even n) (v : ℚ) :
    nearestEven (n - v) = n - nearestEven v := by
  have near : |v - nearestEven v| < 1 / 2 ∨
      (|v - nearestEven v| = 1 / 2 ∧ Even (nearestEven v)) := nearestEven_eq_iff.mp rfl
  have mirrored : |n - v - ((n - nearestEven v : ℤ) : ℚ)| = |v - nearestEven v| := by
    rw [← abs_neg]
    congr 1
    push_cast
    ring
  rw [nearestEven_eq_iff, mirrored]
  exact near.imp_right fun half => ⟨half.1, even.sub half.2⟩

theorem nearestAway_of_nonneg (nonneg : 0 ≤ v) : nearestAway v = ⌊v + 1 / 2⌋ := if_pos nonneg

/-- What is nearer to a fraction than the next one of the same even denominator is rounded as that
fraction, unless it falls short of a half. -/
theorem nearestAway_eq_of_near {total half : ℕ} (positive : 0 < half)
    (value : v = total / (2 * half : ℕ)) (nonneg : 0 ≤ w) (near : |w - v| < 1 / (2 * half : ℕ))
    (atHalf : ∀ k : ℤ, v = k + 1 / 2 → v ≤ w) : nearestAway w = nearestAway v := by
  have parts : v + 1 / 2 = ((total + half : ℕ) : ℚ) / (2 * half : ℕ) := by
    rw [value]
    push_cast
    field_simp
  rw [natCast_div_eq (total + half) (by omega)] at parts
  have proper : (total + half) % (2 * half) + 1 ≤ 2 * half := Nat.mod_lt _ (by omega)
  have unit : (0 : ℚ) < (2 * half : ℕ) := Nat.cast_pos.mpr (by omega)
  generalize (total + half) / (2 * half) = whole at parts
  generalize (total + half) % (2 * half) = rest at parts proper
  generalize 2 * half = denominator at value near parts proper unit
  obtain ⟨lower, upper⟩ := abs_lt.mp near
  have below : (rest : ℚ) / denominator + 1 / denominator ≤ 1 := by
    rw [← add_div, div_le_one unit]
    exact_mod_cast proper
  have above : (0 : ℚ) ≤ rest / denominator := div_nonneg rest.cast_nonneg unit.le
  have floor : ⌊v + 1 / 2⌋ = (whole : ℤ) := by
    rw [Int.floor_eq_iff, Int.cast_natCast]
    constructor <;> linarith
  have floor' : ⌊w + 1 / 2⌋ = (whole : ℤ) := by
    rw [Int.floor_eq_iff, Int.cast_natCast]
    refine ⟨?_, by linarith⟩
    obtain rfl | left := Nat.eq_zero_or_pos rest
    · rw [Nat.cast_zero, zero_div, add_zero] at parts
      have exactHalf : v = ((whole - 1 : ℤ) : ℚ) + 1 / 2 := by
        push_cast
        linarith
      linarith [atHalf _ exactHalf]
    · have atLeast : 1 / (denominator : ℚ) ≤ rest / denominator :=
        div_le_div_of_nonneg_right (Nat.one_le_cast.mpr left) unit.le
      linarith
  have nonneg' : 0 ≤ v := value ▸ div_nonneg total.cast_nonneg unit.le
  rw [nearestAway_of_nonneg nonneg, nearestAway_of_nonneg nonneg', floor, floor']

namespace Decimal

variable {scale : ℕ}

/-! ## The last scale -/

/-- The last scale at which a number has room. -/
def lastScale (v : ℚ) : ℕ := Nat.findGreatest (Fits v) maxScale

/-- The number rounded at its last scale. -/
def nearestTo (v : ℚ) : ℚ := roundAt v (lastScale v)

theorem nearest?_of_fits (fits : Fits v 0) : nearest? v = some (nearestTo v) := if_pos fits

theorem eq_nearestTo_of_nearest? (found : nearest? v = some w) : w = nearestTo v := by
  rw [nearest?] at found
  split at found
  · exact (Option.some.inj found).symm
  · cases found

theorem le_lastScale (inScale : scale ≤ maxScale) (fits : Fits v scale) : scale ≤ lastScale v :=
  Nat.le_findGreatest inScale fits

theorem tenPow_le_lastScale (inScale : scale ≤ maxScale) (fits : Fits v scale) :
    (tenPow scale : ℚ) ≤ tenPow (lastScale v) := by
  exact_mod_cast tenPow_mono (le_lastScale inScale fits)

theorem fits_lastScale (fits : Fits v 0) : Fits v (lastScale v) :=
  Nat.findGreatest_spec (P := Fits v) (Nat.zero_le maxScale) fits

theorem fits_of_nonneg (nonneg : 0 ≤ v) (small : v * tenPow scale < bound - 1 / 2) :
    Fits v scale := by
  rwa [Fits, abs_of_nonneg nonneg]

/-! ## Rounding at a scale -/

theorem abs_sub_roundAt_le (v : ℚ) (scale : ℕ) :
    |v - roundAt v scale| ≤ 1 / (2 * tenPow scale) := by
  have power := tenPow_cast_pos scale
  have split : v - roundAt v scale =
      (v * tenPow scale - nearestEven (v * tenPow scale)) / tenPow scale := by
    rw [roundAt]
    field_simp
  rw [split, abs_div, abs_of_pos power, ← div_div]
  exact div_le_div_of_nonneg_right (abs_sub_nearestEven_le _) power.le

/-- A number that is whole at the scale is not passed over. -/
theorem le_roundAt (whole : v * tenPow scale = n) (less : v ≤ w) : v ≤ roundAt w scale := by
  have power := tenPow_cast_pos scale
  have scaled : v * tenPow scale ≤ w * tenPow scale := mul_le_mul_of_nonneg_right less power.le
  have rounded := nearestEven_mono scaled
  rw [whole, nearestEven_intCast] at rounded
  rw [roundAt, le_div_iff₀ power, whole]
  exact_mod_cast rounded

theorem roundAt_nonneg (nonneg : 0 ≤ v) (scale : ℕ) : 0 ≤ roundAt v scale :=
  le_roundAt (n := 0) (by simp) nonneg

/-- What is missing from a number that is even at the scale is rounded in its place. -/
theorem roundAt_sub (whole : v * tenPow scale = n) (even : Even n) (loss : ℚ) :
    roundAt (v - loss) scale = v - roundAt loss scale := by
  have power := tenPow_cast_pos scale
  rw [roundAt, roundAt, sub_mul, whole, nearestEven_sub_of_even even, Int.cast_sub, sub_div,
    ← whole, mul_div_cancel_right₀ _ power.ne']

/-- At a finer scale a whole number stays whole. -/
theorem whole_of_le {finer : ℕ} (whole : v * tenPow scale = n) (le : scale ≤ finer) :
    v * tenPow finer = (n * tenPow (finer - scale) : ℤ) := by
  obtain ⟨more, rfl⟩ := Nat.exists_eq_add_of_le le
  rw [Nat.add_sub_cancel_left, tenPow_add, Nat.cast_mul, ← mul_assoc, whole]
  push_cast
  rfl

/-! ## Rounding at the last scale -/

/-- The nearest amount is off by at most half a unit of any scale at which there is room. -/
theorem abs_sub_nearestTo_le (inScale : scale ≤ maxScale) (fits : Fits v scale) :
    |v - nearestTo v| ≤ 1 / (2 * tenPow scale) := by
  have finer := tenPow_le_lastScale inScale fits
  refine (abs_sub_roundAt_le v (lastScale v)).trans ?_
  exact one_div_le_one_div_of_le (by linarith [tenPow_cast_pos scale]) (by linarith)

/-- A number that is whole at a scale at which there is room is not passed over. -/
theorem le_nearestTo (inScale : scale ≤ maxScale) (fits : Fits w scale)
    (whole : v * tenPow scale = n) (less : v ≤ w) : v ≤ nearestTo w :=
  le_roundAt (whole_of_le whole (le_lastScale inScale fits)) less

theorem nearestTo_nonneg (nonneg : 0 ≤ v) : 0 ≤ nearestTo v := roundAt_nonneg nonneg _

/-- The grid on which a loss does not change the last scale: so many units, and a scale beyond the
one at which there is room anyway. -/
structure OnGrid (v : ℚ) (base : ℕ) (n : ℤ) : Prop where
  inScale : base ≤ maxScale
  fits : Fits v base
  whole : v * tenPow (base + 1) = (500000000000000 * n : ℤ)

/-- A small loss does not make room: the bound is not so close to the grid that the number could get
over it. -/
theorem OnGrid.fits_of_fits_sub {base : ℕ} {loss : ℚ} (grid : OnGrid v base n) (nonneg : 0 ≤ loss)
    (le : loss ≤ v) (small : loss * tenPow maxScale ≤ 100000000000000) (inScale : scale ≤ maxScale)
    (fits : Fits (v - loss) scale) : Fits v scale := by
  by_cases coarse : scale ≤ base
  · exact grid.fits.of_le coarse
  have exactly := whole_of_le grid.whole (Nat.lt_of_not_le coarse)
  have lost : loss * tenPow scale ≤ 100000000000000 := by
    refine (mul_le_mul_of_nonneg_left ?_ nonneg).trans small
    exact_mod_cast tenPow_mono inScale
  rw [Fits, abs_of_nonneg (sub_nonneg.mpr le), sub_mul, exactly] at fits
  rw [Fits, abs_of_nonneg (nonneg.trans le), exactly]
  have below : 500000000000000 * n * tenPow (scale - (base + 1)) <
      (bound : ℤ) + 100000000000000 := by
    have cast : ((500000000000000 * n * tenPow (scale - (base + 1)) : ℤ) : ℚ) <
        bound + 100000000000000 := by linarith
    exact_mod_cast cast
  -- the bound is more than that above the last multiple in front of it
  have inRange : 500000000000000 * n * tenPow (scale - (base + 1)) ≤ (bound : ℤ) - 1 := by
    rw [mul_assoc] at below ⊢
    unfold bound at below ⊢
    omega
  have cast : ((500000000000000 * n * tenPow (scale - (base + 1)) : ℤ) : ℚ) ≤ bound - 1 := by
    exact_mod_cast inRange
  linarith

/-- It leaves the number its last scale. -/
theorem OnGrid.lastScale_sub {base : ℕ} {loss : ℚ} (grid : OnGrid v base n) (nonneg : 0 ≤ loss)
    (le : loss ≤ v) (small : loss * tenPow maxScale ≤ 100000000000000) :
    lastScale (v - loss) = lastScale v := by
  have less : |v - loss| ≤ |v| := by
    rw [abs_of_nonneg (sub_nonneg.mpr le), abs_of_nonneg (nonneg.trans le)]
    linarith
  have whole := grid.fits.of_le (Nat.zero_le base)
  apply le_antisymm
  · have inScale : lastScale (v - loss) ≤ maxScale := Nat.findGreatest_le maxScale
    exact le_lastScale inScale
      (grid.fits_of_fits_sub nonneg le small inScale (fits_lastScale (whole.of_abs_le less)))
  · exact le_lastScale (Nat.findGreatest_le maxScale) ((fits_lastScale whole).of_abs_le less)

/-- What has been lost from a number on the grid is rounded in its place. -/
theorem OnGrid.nearestTo_sub {base : ℕ} {loss : ℚ} (grid : OnGrid v base n) (nonneg : 0 ≤ loss)
    (le : loss ≤ v) (small : loss * tenPow maxScale ≤ 100000000000000)
    {m : ℤ} (whole : v * tenPow base = m) (even : Even m) :
    nearestTo (v - loss) = v - roundAt loss (lastScale v) := by
  have finer := le_lastScale grid.inScale grid.fits
  rw [nearestTo, grid.lastScale_sub nonneg le small]
  exact roundAt_sub (whole_of_le whole finer) (even.mul_right _) loss

end Decimal

end Payslip
