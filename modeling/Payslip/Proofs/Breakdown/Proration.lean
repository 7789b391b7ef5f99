/-
# Prorating an amount

An amount is prorated by multiplying it with the payable days, of which there may be less than none,
and dividing by thirty. Both steps round, and what is paid is rounded once more, to cents.

An amount in cents comes out right all the same: its product with the days is exact, and a thirtieth
of a whole number of cents is either half a cent, which needs no rounding, or so far from one that
the quotient cannot be rounded across it. `prorate_cents` says so up to a size that leaves the
quotient four digits after the point.
-/

import Payslip.Proofs.Breakdown.Numbers
import Payslip.Proofs.Formula.Rounded

namespace Payslip

namespace Decimal

/-- A whole number in range is an amount. -/
theorem exists_ofInt? {n : ℤ} (inRange : n.natAbs < bound) :
    ∃ x, ofInt? n = some x ∧ x.toRat = n := by
  have built : (build? (n < 0) n.natAbs 0).map toRat = _ :=
    toRat_build? inRange (Nat.zero_le maxScale)
  rw [tenPow_zero, signed_natAbs, Nat.cast_one, div_one] at built
  exact Option.map_eq_some_iff.mp built

end Decimal

open Decimal

variable {amount prorated : Decimal} {unpaidDays : UInt32}

/-! ## The steps -/

/-- The payable days, as an amount. -/
theorem exists_payableDays (unpaidDays : UInt32) :
    ∃ days, ofInt? (payableDays unpaidDays) = some days ∧
      days.toRat = 30 - (unpaidDays.toNat : ℚ) := by
  have word := unpaidDays.toNat_lt
  have days_eq : payableDays unpaidDays = 30 - (unpaidDays.toNat : ℤ) := rfl
  obtain ⟨days, found, value⟩ := exists_ofInt? (n := payableDays unpaidDays) (by
    rw [days_eq]
    unfold bound
    omega)
  refine ⟨days, found, ?_⟩
  rw [value, days_eq]
  push_cast
  rfl

theorem toRat_monthDays : (ofWord monthDays).toRat = 30 := toRat_ofWord 30

/-- What prorating gives, if it gives anything: the exact result, rounded after each step. -/
theorem toRat_of_prorate (computed : prorate amount unpaidDays = .ok prorated) :
    prorated.toRat =
      nearestTo (nearestTo (amount.toRat * (30 - (unpaidDays.toNat : ℚ))) / 30) := by
  obtain ⟨days, found, days_eq⟩ := exists_payableDays unpaidDays
  simp only [prorate, found, Option.bind_eq_bind, Option.bind_some] at computed
  split at computed
  · next reached =>
    cases computed
    obtain ⟨product, multiplied, divided⟩ := Option.bind_eq_some_iff.mp reached
    have quotient := toRat_div? product (y := ofWord monthDays) (by norm_num [toRat_monthDays])
    rw [toRat_eq_nearestTo quotient divided, toRat_monthDays,
      toRat_eq_nearestTo (toRat_mul? amount days) multiplied, days_eq]
  · cases computed

/-- There is a result if the product with the days is in range: the division cannot fail. -/
theorem exists_prorate (fits : Fits (amount.toRat * (30 - (unpaidDays.toNat : ℚ))) 0) :
    ∃ prorated, prorate amount unpaidDays = .ok prorated := by
  obtain ⟨days, found, days_eq⟩ := exists_payableDays unpaidDays
  rw [← days_eq] at fits
  obtain ⟨product, multiplied, -⟩ := exists_toRat_eq_nearestTo (toRat_mul? amount days) fits
  obtain ⟨quotient, divided, -⟩ :=
    exists_div? product (y := ofWord monthDays) (by norm_num [toRat_monthDays])
  refine ⟨quotient, ?_⟩
  simp only [prorate, found, multiplied, divided, Option.bind_eq_bind, Option.bind_some]

/-- As long as there are days that are paid, more is left of more. -/
theorem Decimal.AtMost.prorate {amount' prorated' : Decimal} (raised : amount.AtMost amount')
    (within : unpaidDays ≤ 30) (computed : prorate amount unpaidDays = .ok prorated)
    (computed' : prorate amount' unpaidDays = .ok prorated') : prorated.AtMost prorated' := by
  have unpaid : (unpaidDays.toNat : ℚ) ≤ 30 := by
    exact_mod_cast UInt32.le_iff_toNat_le.mp within
  rw [AtMost, toRat_of_prorate computed, toRat_of_prorate computed']
  have product := nearestTo_mono (mul_le_mul_of_nonneg_right raised (sub_nonneg.mpr unpaid))
  exact nearestTo_mono (div_le_div_of_nonneg_right product (by norm_num))

/-! ## Amounts in cents -/

/-- A thirtieth of a number of cents goes to the cent that it would go to without the rounding of
the quotient. -/
theorem wholeCents_nearestTo_natCast {total : ℕ} (small : total < 3 * 10 ^ 27) :
    wholeCents (nearestTo (total / 3000)) = wholeCents (total / 3000) := by
  have inRange : (total : ℚ) < 3 * 10 ^ 27 := by exact_mod_cast small
  have nonneg : (0 : ℚ) ≤ total / 3000 := by positivity
  have fits : Fits ((total : ℚ) / 3000) 4 := by
    apply fits_of_nonneg nonneg
    norm_num [tenPow_eq_pow, bound]
    linarith
  have off := abs_sub_nearestTo_le (by decide) fits
  have cents : (total : ℚ) / 3000 * 100 = total / (2 * 15 : ℕ) := by
    norm_num
    ring
  rw [wholeCents, wholeCents, nearestAway_eq_of_near (by decide) cents
    (mul_nonneg (nearestTo_nonneg nonneg) (by norm_num))]
  · rw [← sub_mul, abs_mul, abs_sub_comm]
    norm_num [tenPow_eq_pow] at off ⊢
    linarith
  · -- half a cent has three digits after the point, so the quotient has room for it
    intro k half
    have whole : (total : ℚ) / 3000 * tenPow 3 = (10 * k + 5 : ℤ) := by
      norm_num [tenPow_eq_pow]
      linarith
    have kept := le_nearestTo (by decide) (fits.of_le (by decide)) whole (le_refl _)
    linarith

theorem wholeCents_nearestTo_intCast {total : ℤ} (small : |total| < 3 * 10 ^ 27) :
    wholeCents (nearestTo (total / 3000)) = wholeCents (total / 3000) := by
  obtain ⟨n, rfl | rfl⟩ := Int.eq_nat_or_neg total
  · rw [Nat.abs_cast] at small
    exact wholeCents_nearestTo_natCast (by exact_mod_cast small)
  · rw [abs_neg, Nat.abs_cast] at small
    have mirrored := wholeCents_nearestTo_natCast (by exact_mod_cast small)
    rw [Int.cast_neg, Int.cast_natCast, neg_div, nearestTo_neg, wholeCents_neg, wholeCents_neg,
      mirrored]

/-- Prorating an amount in cents gives the exact result in cents, a half going away from zero. -/
theorem prorate_cents (inCents : amount.scale ≤ 2)
    (small : |amount.toRat * (30 - (unpaidDays.toNat : ℚ))| < 3 * 10 ^ 25) :
    ∃ prorated, prorate amount unpaidDays = .ok prorated ∧
      (roundToCents prorated).toRat =
        wholeCents (amount.toRat * (30 - (unpaidDays.toNat : ℚ)) / 30) := by
  obtain ⟨total, product⟩ : ∃ total : ℤ,
      amount.toRat * (30 - (unpaidDays.toNat : ℚ)) * tenPow 2 = total := by
    refine ⟨amount.units * tenPow (2 - amount.scale) * (30 - unpaidDays.toNat), ?_⟩
    have whole := units_mul_tenPow inCents
    rw [Int.cast_mul, whole]
    push_cast
    ring
  have inRange : |total| < 3 * 10 ^ 27 := by
    have scaled : |(total : ℚ)| < 3 * 10 ^ 27 := by
      rw [← product, abs_mul, abs_of_pos (tenPow_cast_pos 2)]
      norm_num [tenPow_eq_pow] at small ⊢
      linarith
    exact_mod_cast scaled
  have exact : nearestTo (amount.toRat * (30 - (unpaidDays.toNat : ℚ))) =
      amount.toRat * (30 - (unpaidDays.toNat : ℚ)) := by
    have kept := nearest?_of_exact (by decide) product (inRange.trans (by decide))
    exact (eq_nearestTo_of_nearest? kept).symm
  have cents : amount.toRat * (30 - (unpaidDays.toNat : ℚ)) / 30 = total / 3000 := by
    rw [← product]
    norm_num [tenPow_eq_pow]
    ring
  obtain ⟨prorated, computed⟩ : ∃ prorated, prorate amount unpaidDays = .ok prorated := by
    apply exists_prorate
    rw [Fits, tenPow_zero, Nat.cast_one, mul_one]
    norm_num [bound] at small ⊢
    linarith
  refine ⟨prorated, computed, ?_⟩
  rw [toRat_roundToCents, toRat_of_prorate computed, exact, cents,
    wholeCents_nearestTo_intCast inRange]

/-- One day more than the month has, of an amount that leaves half a cent below zero. -/
theorem prorate_cents_halfCent :
    (Decimal.mk false 1234567890123456789012345675 2).scale ≤ 2 ∧
    |(Decimal.mk false 1234567890123456789012345675 2).toRat * (30 - ((31 : UInt32).toNat : ℚ))| <
      3 * 10 ^ 25 ∧
    ∃ prorated, prorate (.mk false 1234567890123456789012345675 2) 31 = .ok prorated ∧
      (roundToCents prorated).toRat = -41152263004115226300411523 / 100 := by
  have small : |(Decimal.mk false 1234567890123456789012345675 2).toRat *
      (30 - ((31 : UInt32).toNat : ℚ))| < 3 * 10 ^ 25 := by decide +kernel
  obtain ⟨prorated, computed, cents⟩ := prorate_cents (by decide) small
  refine ⟨by decide, small, prorated, computed, cents.trans ?_⟩
  decide +kernel

end Payslip
