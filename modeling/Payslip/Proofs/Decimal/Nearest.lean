/-
# The nearest amount

Whatever an operation on amounts computes exactly has to be made to fit: digits at its end
are dropped until the rest is in range. `nearest?` says what comes of that in terms of the
number alone: it is rounded at the last scale at which it has room, and there is none if it
has no room even as a whole number.

Sums, differences and products are the nearest amounts to the exact ones. Since that leaves
out how the operands are represented, equal numbers give equal results, however many zeros
are written behind them.
-/

import Payslip.Decimal.Arithmetic
import Payslip.Proofs.Decimal.Rounding

namespace Payslip.Decimal

/-- The number has room at the scale: it is not rounded out of range there. -/
def Fits (v : ℚ) (scale : ℕ) : Prop := |v| * tenPow scale < bound - 1 / 2

instance (v : ℚ) : DecidablePred (Fits v) := fun scale =>
  inferInstanceAs (Decidable (|v| * tenPow scale < bound - 1 / 2))

/-- The number rounded at the scale, a half going to the even neighbour. -/
def roundAt (v : ℚ) (scale : ℕ) : ℚ := nearestEven (v * tenPow scale) / tenPow scale

/-- The number rounded at the last scale at which it has room. -/
def nearest? (v : ℚ) : Option ℚ :=
  if Fits v 0 then some (roundAt v (Nat.findGreatest (Fits v) maxScale)) else none

variable {v : ℚ} {scale : ℕ}

/-! ## Room -/

theorem Fits.of_succ (fits : Fits v (scale + 1)) : Fits v scale := by
  have less : |v| * tenPow scale ≤ |v| * tenPow (scale + 1) := by
    apply mul_le_mul_of_nonneg_left _ (abs_nonneg v)
    rw [tenPow_succ, Nat.cast_mul, Nat.cast_ofNat]
    linarith [tenPow_cast_pos scale]
  exact less.trans_lt fits

theorem Fits.of_le {wider : ℕ} (fits : Fits v wider) (less : scale ≤ wider) : Fits v scale := by
  induction wider, less using Nat.le_induction with
  | base => exact fits
  | succ wider less ih => exact ih fits.of_succ

theorem Fits.of_abs_le {w : ℚ} (fits : Fits w scale) (less : |v| ≤ |w|) : Fits v scale :=
  (mul_le_mul_of_nonneg_right less (tenPow_cast_pos scale).le).trans_lt fits

theorem fits_neg : Fits (-v) scale ↔ Fits v scale := by
  rw [Fits, Fits, abs_neg]

/-- A number that reaches the bound at a scale has no room there. -/
theorem not_fits_of_le (large : (bound : ℚ) ≤ v * tenPow scale) : ¬ Fits v scale := by
  have grows : v * tenPow scale ≤ |v| * tenPow scale :=
    mul_le_mul_of_nonneg_right (le_abs_self v) (tenPow_cast_pos scale).le
  rw [Fits, not_lt]
  linarith

theorem even_bound : Even (bound : ℤ) := by decide

/-- A number has room exactly when what it is rounded to is in range. -/
theorem fits_iff_nearestEven_lt (nonneg : 0 ≤ v) :
    Fits v scale ↔ nearestEven (v * tenPow scale) < bound := by
  rw [nearestEven_lt_iff even_bound, Fits, abs_of_nonneg nonneg]
  push_cast
  rfl

/-! ## The last scale -/

theorem nearest?_eq_none (large : ¬ Fits v 0) : nearest? v = none := if_neg large

/-- A number is rounded where it has room and would have none with another digit. -/
theorem nearest?_of_last (inScale : scale ≤ maxScale) (fits : Fits v scale)
    (last : scale = maxScale ∨ ¬ Fits v (scale + 1)) : nearest? v = some (roundAt v scale) := by
  have greatest : Nat.findGreatest (Fits v) maxScale = scale := by
    refine Nat.findGreatest_eq_iff.mpr ⟨inScale, fun _ => fits, fun wider more within room => ?_⟩
    rcases last with rfl | full
    · omega
    · exact full (room.of_le more)
  rw [nearest?, if_pos (fits.of_le (Nat.zero_le scale)), greatest]

/-- A number that needs no rounding is kept. -/
theorem nearest?_of_exact {n : ℤ} (inScale : scale ≤ maxScale) (exact : v * tenPow scale = n)
    (inRange : |n| < bound) : nearest? v = some v := by
  have fits : Fits v scale := by
    have cast : (|n| : ℚ) ≤ bound - 1 := by exact_mod_cast Int.le_sub_one_of_lt inRange
    rw [Fits, ← abs_of_pos (tenPow_cast_pos scale), ← abs_mul, exact]
    linarith
  have wider : scale ≤ Nat.findGreatest (Fits v) maxScale := Nat.le_findGreatest inScale fits
  obtain ⟨more, split⟩ := Nat.exists_eq_add_of_le wider
  have whole : v * tenPow (scale + more) = ((n * tenPow more : ℤ) : ℚ) := by
    rw [tenPow_add]
    push_cast
    rw [← exact]
    ring
  rw [nearest?, if_pos (fits.of_le (Nat.zero_le scale)), split, roundAt, whole,
    nearestEven_intCast, ← whole, mul_div_cancel_right₀ _ (tenPow_cast_pos _).ne']

theorem nearest?_neg (v : ℚ) : nearest? (-v) = (nearest? v).map (- ·) := by
  have same : Fits (-v) = Fits v := by
    funext scale
    exact propext fits_neg
  rw [nearest?, nearest?]
  simp only [same]
  split
  · rw [Option.map_some, roundAt, roundAt, neg_mul, nearestEven_neg, Int.cast_neg, neg_div]
  · rfl

theorem nearest?_signed (negative : Bool) (v : ℚ) :
    nearest? (signed negative v) = (nearest? v).map (signed negative) := by
  cases negative with
  | false => exact Option.map_id'.symm
  | true => exact nearest?_neg v

/-! ## Making a number fit -/

theorem toRat_build? {negative : Bool} {coefficient : ℕ} (inRange : coefficient < bound)
    (inScale : scale ≤ maxScale) :
    (build? negative coefficient scale).map toRat =
      some (signed negative (coefficient / tenPow scale)) := by
  rw [build?, dif_pos ⟨inRange, inScale⟩, Option.map_some, toRat_eq]

/-- What is rounded up to the bound has one digit less, and is then rounded down from it. -/
theorem nearestEven_div_ten_of_eq_bound {w : ℚ} (carried : nearestEven w = bound) :
    nearestEven (w / 10) = Rounding.halfEven bound 10 := by
  have near := abs_le.mp (abs_sub_nearestEven_le w)
  rw [carried] at near
  have value : Rounding.halfEven bound 10 = 7922816251426433759354395034 := by decide
  rw [value, nearestEven_eq_iff]
  left
  rw [abs_lt]
  unfold bound at near
  push_cast at near ⊢
  constructor <;> linarith

/-- Rounded up to the bound at one scale, a number fits at the one before. -/
theorem nearest?_of_carried (nonneg : 0 ≤ v) (inScale : scale + 1 ≤ maxScale)
    (carried : nearestEven (v * tenPow (scale + 1)) = bound) :
    nearest? v = some ((Rounding.halfEven bound 10 : ℚ) / tenPow scale) := by
  have shifted : v * tenPow scale = v * tenPow (scale + 1) / 10 := by
    rw [tenPow_succ, Nat.cast_mul, Nat.cast_ofNat]
    ring
  have rounded : nearestEven (v * tenPow scale) = Rounding.halfEven bound 10 := by
    rw [shifted]
    exact nearestEven_div_ten_of_eq_bound carried
  have fits : Fits v scale := by
    rw [fits_iff_nearestEven_lt nonneg, rounded]
    decide
  have full : ¬ Fits v (scale + 1) := by
    rw [fits_iff_nearestEven_lt nonneg, carried]
    exact lt_irrefl _
  rw [nearest?_of_last (Nat.le_of_succ_le inScale) fits (.inr full), roundAt, rounded,
    Int.cast_natCast]

section Fit

variable {total : ℕ}

theorem bound_le_of_excess?_eq_none (none : excess? total scale = none) :
    bound ≤ total / tenPow scale := by
  rw [excess?, List.find?_range'_eq_none] at none
  simpa using none scale (by omega) (by omega)

/-- As few digits are dropped as possible. -/
theorem excess?_eq_some {dropped : ℕ} (found : excess? total scale = some dropped) :
    scale ≤ maxScale + dropped ∧ dropped ≤ scale ∧ total / tenPow dropped < bound ∧
      ∀ fewer < dropped, scale ≤ maxScale + fewer → bound ≤ total / tenPow fewer := by
  rw [excess?, List.find?_range'_eq_some, List.mem_range'_1] at found
  obtain ⟨inRange, bounds, first⟩ := found
  refine ⟨by omega, by omega, by simpa using inRange, fun fewer less within => ?_⟩
  simpa using first fewer (by omega) less

/-- Dropping digits from a coefficient is reading it at a lower scale. -/
theorem div_mul_tenPow (total : ℕ) {dropped : ℕ} (within : dropped ≤ scale) :
    (total : ℚ) / tenPow scale * tenPow (scale - dropped) = total / tenPow dropped := by
  have power : (tenPow scale : ℚ) = tenPow (scale - dropped) * tenPow dropped := by
    rw [← Nat.cast_mul, ← tenPow_add, Nat.sub_add_cancel within]
  have kept := (tenPow_cast_pos (scale - dropped)).ne'
  have lost := (tenPow_cast_pos dropped).ne'
  rw [power]
  field_simp

theorem le_cast_div {n d b : ℕ} (positive : 0 < d) (large : b ≤ n / d) : (b : ℚ) ≤ n / d := by
  rw [le_div_iff₀ (by exact_mod_cast positive)]
  exact_mod_cast (Nat.le_div_iff_mul_le positive).mp large

/-- Rounding digits away is rounding at a lower scale. -/
theorem nearestEven_mul_tenPow (total : ℕ) {dropped : ℕ} (within : dropped ≤ scale) :
    nearestEven ((total : ℚ) / tenPow scale * tenPow (scale - dropped)) =
      Rounding.halfEven total (tenPow dropped) := by
  rw [div_mul_tenPow total within, nearestEven_div total (tenPow_pos dropped)]

theorem cast_div_tenPow_nonneg (total scale : ℕ) : (0 : ℚ) ≤ total / tenPow scale :=
  div_nonneg (Nat.cast_nonneg _) (Nat.cast_nonneg _)

/-- A coefficient that is in range is kept. -/
theorem nearest?_of_lt_bound (inRange : total < bound) (inScale : scale ≤ maxScale) :
    nearest? (total / tenPow scale) = some ((total : ℚ) / tenPow scale) := by
  have exact : (total : ℚ) / tenPow scale * tenPow scale = (total : ℤ) := by
    rw [div_mul_cancel₀ _ (tenPow_cast_pos scale).ne', Int.cast_natCast]
  exact nearest?_of_exact inScale exact (by simpa using inRange)

/-- The digits that are left when others are rounded away, if they are in range and no more could
have been left. -/
theorem nearest?_of_dropped {dropped : ℕ} (within : dropped ≤ scale)
    (inScale : scale - dropped ≤ maxScale)
    (small : Rounding.halfEven total (tenPow dropped) < bound)
    (last : scale - dropped = maxScale ∨
      ¬ Fits ((total : ℚ) / tenPow scale) (scale - dropped + 1)) :
    nearest? (total / tenPow scale) =
      some ((Rounding.halfEven total (tenPow dropped) : ℚ) / tenPow (scale - dropped)) := by
  have rounded := nearestEven_mul_tenPow total within
  have fits : Fits ((total : ℚ) / tenPow scale) (scale - dropped) := by
    rw [fits_iff_nearestEven_lt (cast_div_tenPow_nonneg total scale), rounded]
    exact_mod_cast small
  rw [nearest?_of_last inScale fits last, roundAt, rounded, Int.cast_natCast]

/-- What is left could not have had another digit: there would have been one digit less to drop. -/
theorem last_of_excess?_eq_some {dropped : ℕ} (found : excess? total scale = some dropped) :
    dropped = 0 ∨ scale - dropped = maxScale ∨
      ¬ Fits ((total : ℚ) / tenPow scale) (scale - dropped + 1) := by
  obtain ⟨inScale, within, -, first⟩ := excess?_eq_some found
  by_cases none : dropped = 0
  · exact .inl none
  by_cases full : scale - dropped = maxScale
  · exact .inr (.inl full)
  have large := first (dropped - 1) (by omega) (by omega)
  have wider : scale - dropped + 1 = scale - (dropped - 1) := by omega
  refine .inr (.inr (not_fits_of_le ?_))
  rw [wider, div_mul_tenPow total (by omega)]
  exact le_cast_div (tenPow_pos _) large

/-- Dropping as few digits as possible, and rounding, gives the nearest amount. -/
theorem toRat_fit? (negative : Bool) (total scale : ℕ) :
    (fit? negative total scale).map toRat =
      nearest? (signed negative (total / tenPow scale)) := by
  have nonneg := cast_div_tenPow_nonneg total scale
  rw [nearest?_signed]
  unfold fit?
  cases found : excess? total scale with
  | none =>
      have large := le_cast_div (tenPow_pos scale) (bound_le_of_excess?_eq_none found)
      rw [nearest?_eq_none (not_fits_of_le (by simpa using large))]
      rfl
  | some dropped =>
      obtain ⟨inScale, within, inRange, -⟩ := excess?_eq_some found
      dsimp only
      split
      · next small =>
        rw [toRat_build? small (by omega)]
        rcases last_of_excess?_eq_some found with rfl | last
        · rw [tenPow_zero, Nat.div_one] at inRange
          rw [nearest?_of_lt_bound inRange (by omega)]
          simp
        · rw [nearest?_of_dropped within (by omega) small last]
          rfl
      · next large =>
        have carried : Rounding.halfEven total (tenPow dropped) = bound := by
          have most := Rounding.halfEven_le total (tenPow dropped)
          omega
        have rounded := nearestEven_mul_tenPow total within
        rw [carried] at rounded ⊢
        split
        · next whole =>
          have full : ¬ Fits ((total : ℚ) / tenPow scale) 0 := by
            rw [fits_iff_nearestEven_lt nonneg, ← Nat.sub_eq_zero_of_le whole, rounded]
            exact lt_irrefl _
          rw [nearest?_eq_none full]
          rfl
        · have before : scale - (dropped + 1) + 1 = scale - dropped := by omega
          rw [← before] at rounded
          rw [nearest?_of_carried nonneg (by omega) rounded, toRat_build? (by decide) (by omega)]
          rfl

end Fit

/-! ## Operations -/

theorem toRat_mul_tenPow (x : Decimal) : x.toRat * tenPow x.scale = x.units := by
  rw [toRat_eq_units_div, div_mul_cancel₀ _ (tenPow_cast_pos _).ne']

/-- At a scale that it reaches an amount is a whole number. -/
theorem units_mul_tenPow {x : Decimal} (within : x.scale ≤ scale) :
    ((x.units * tenPow (scale - x.scale) : ℤ) : ℚ) = x.toRat * tenPow scale := by
  have power : (tenPow scale : ℚ) = tenPow x.scale * tenPow (scale - x.scale) := by
    rw [← Nat.cast_mul, ← tenPow_add, Nat.add_sub_cancel' within]
  rw [power, ← mul_assoc, toRat_mul_tenPow, Int.cast_mul, Int.cast_natCast]

theorem abs_units_lt (x : Decimal) : |x.units| < bound := by
  have inRange := x.coefficient_lt
  rw [units]
  split
  · rw [abs_neg, Nat.abs_cast]
    exact_mod_cast inRange
  · rw [Nat.abs_cast]
    exact_mod_cast inRange

/-- An amount is the nearest one to itself. -/
theorem nearest?_toRat (x : Decimal) : nearest? x.toRat = some x.toRat :=
  nearest?_of_exact x.scale_le x.toRat_mul_tenPow x.abs_units_lt

theorem toRat_negate (x : Decimal) : x.negate.toRat = -x.toRat := by
  rw [negate]
  split
  · next zero => rw [isZero_iff_toRat_eq_zero.mp zero, neg_zero]
  · rw [toRat_eq, toRat_eq, signed, signed]
    cases x.negative <;> simp

theorem signed_natAbs (n : ℤ) (d : ℚ) : signed (n < 0) ((n.natAbs : ℕ) / d) = n / d := by
  rw [signed, Nat.cast_natAbs]
  by_cases negative : n < 0
  · simp [negative, abs_of_neg, neg_div]
  · simp [negative, abs_of_nonneg (not_lt.mp negative)]

/-- The sum is the amount nearest to the exact sum. -/
theorem toRat_add? (x y : Decimal) : (x.add? y).map toRat = nearest? (x.toRat + y.toRat) := by
  rw [add?]
  split
  · next zero =>
    rw [isZero_iff_toRat_eq_zero.mp zero, zero_add, nearest?_toRat]
    rfl
  split
  · next zero =>
    rw [isZero_iff_toRat_eq_zero.mp zero, add_zero, nearest?_toRat]
    rfl
  dsimp only
  rw [toRat_fit?, signed_natAbs, Int.cast_add, units_mul_tenPow (le_max_left _ _),
    units_mul_tenPow (le_max_right _ _), ← add_mul,
    mul_div_cancel_right₀ _ (tenPow_cast_pos _).ne']

/-- The difference is the amount nearest to the exact difference. -/
theorem toRat_sub? (x y : Decimal) : (x.sub? y).map toRat = nearest? (x.toRat - y.toRat) := by
  rw [sub?, toRat_add?, toRat_negate, sub_eq_add_neg]

theorem signed_mul_signed (first second : Bool) (v w : ℚ) :
    signed first v * signed second w = signed (first != second) (v * w) := by
  cases first <;> cases second <;> simp [signed]

theorem signed_and_ne_zero (negative : Bool) (n : ℕ) (d : ℚ) :
    signed (negative && n != 0) (n / d) = signed negative (n / d) := by
  by_cases zero : n = 0
  · simp [zero]
  · rw [bne_iff_ne.mpr zero, Bool.and_true]

/-- A product of short coefficients is in range, whatever digits it loses. -/
theorem halfEven_lt_bound_of_short {total : ℕ} (short : total < shortBound * shortBound) (d : ℕ) :
    Rounding.halfEven total d < bound := by
  have rounded := Rounding.halfEven_le total d
  have quotient := Nat.div_le_self total d
  unfold shortBound at short
  unfold bound
  omega

/-- A product of short coefficients at a scale above the vanishing one is less than half a unit of
the greatest scale. -/
theorem halfEven_eq_zero_of_vanishing {total : ℕ} (short : total < shortBound * shortBound)
    (vanishing : vanishingScale < scale) :
    Rounding.halfEven total (tenPow (scale - maxScale)) = 0 := by
  unfold shortBound at short
  unfold vanishingScale at vanishing
  have power : tenPow 20 ≤ tenPow (scale - maxScale) := tenPow_mono (by unfold maxScale; omega)
  have size : tenPow 20 = 100000000000000000000 := by decide
  have quotient : total / tenPow (scale - maxScale) = 0 := Nat.div_eq_of_lt (by omega)
  have remainder : total % tenPow (scale - maxScale) = total := Nat.mod_eq_of_lt (by omega)
  rw [Rounding.halfEven, quotient, remainder, if_neg (by omega)]

/-- The product is the amount nearest to the exact product. -/
theorem toRat_mul? (x y : Decimal) : (x.mul? y).map toRat = nearest? (x.toRat * y.toRat) := by
  have product : x.toRat * y.toRat = signed (x.negative != y.negative)
      (((x.coefficient * y.coefficient : ℕ) : ℚ) / tenPow (x.scale + y.scale)) := by
    rw [toRat_eq, toRat_eq, signed_mul_signed, div_mul_div_comm, tenPow_add]
    push_cast
    rfl
  rw [mul?]
  split
  · next zero =>
    have vanishes : x.toRat * y.toRat = (0 : Decimal).toRat := by
      rw [toRat_zero, mul_eq_zero, ← isZero_iff_toRat_eq_zero, ← isZero_iff_toRat_eq_zero]
      simpa using zero
    rw [vanishes, nearest?_toRat]
    rfl
  dsimp only
  split
  · next short =>
    have inRange : x.coefficient * y.coefficient < shortBound * shortBound :=
      Nat.mul_lt_mul'' short.1 short.2
    rw [product, nearest?_signed]
    generalize x.coefficient * y.coefficient = total at inRange
    generalize x.scale + y.scale = scale
    have small := halfEven_lt_bound_of_short inRange (tenPow (scale - maxScale))
    split
    · next vanishing =>
      have tiny := halfEven_eq_zero_of_vanishing inRange vanishing
      unfold vanishingScale at vanishing
      rw [nearest?_of_dropped (Nat.sub_le scale maxScale) (by omega) small
        (.inl (by unfold maxScale; omega)), tiny]
      simp
    split
    · next long =>
      rw [toRat_build? small (Nat.le_refl maxScale), signed_and_ne_zero,
        nearest?_of_dropped (Nat.sub_le scale maxScale) (by omega) small (.inl (by omega)),
        Nat.sub_sub_self long.le]
      rfl
    · next fine =>
      have inBound : total < bound := by
        simpa using halfEven_lt_bound_of_short inRange 1
      rw [toRat_build? inBound (Nat.not_lt.mp fine),
        nearest?_of_lt_bound inBound (Nat.not_lt.mp fine)]
      rfl
  · rw [toRat_fit?, product]

theorem nearestAway_signed (negative : Bool) (v : ℚ) :
    (nearestAway (signed negative v) : ℚ) = signed negative (nearestAway v) := by
  cases negative with
  | false => rfl
  | true => exact (congrArg Int.cast (nearestAway_neg v)).trans (Int.cast_neg _)

theorem signed_mul (negative : Bool) (v w : ℚ) :
    signed negative v * w = signed negative (v * w) := by
  cases negative <;> simp [signed]

theorem signed_div (negative : Bool) (v w : ℚ) :
    signed negative v / w = signed negative (v / w) := by
  rw [div_eq_mul_inv, signed_mul, div_eq_mul_inv]

/-- Rounding gives the number with so many digits after the point that is nearest, a half going away
from zero. -/
theorem toRat_roundTo (places : ℕ) (x : Decimal) :
    (x.roundTo places).toRat = nearestAway (x.toRat * tenPow places) / tenPow places := by
  have power := (tenPow_cast_pos places).ne'
  rw [roundTo]
  split
  · next within =>
    have whole := units_mul_tenPow within
    rw [← whole, nearestAway_intCast, whole, mul_div_cancel_right₀ _ power]
  · next more =>
    dsimp only
    split
    · next zero =>
      rw [isZero_iff_toRat_eq_zero.mp zero, toRat_eq]
      simp
    · have value := div_mul_tenPow x.coefficient (Nat.sub_le x.scale places)
      rw [Nat.sub_sub_self (Nat.le_of_not_le more)] at value
      rw [toRat_eq, toRat_eq, signed_mul, value, nearestAway_signed,
        nearestAway_div _ (tenPow_pos _), signed_div, Int.cast_natCast]
      exact signed_and_ne_zero _ _ _

end Payslip.Decimal
