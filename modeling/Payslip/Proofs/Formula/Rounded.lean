/-
# The numbers behind monthly shares and percentages

A monthly share is one rounded division, a percentage a rounded product and a rounded division of
it. This module says which numbers come of them. The divisions always have a result, so a monthly
share is never missing and a percentage is only when the product is out of range.
-/

import Payslip.Formula.Reduction
import Payslip.Proofs.Decimal.Monotone

namespace Payslip

namespace Decimal

theorem toRat_ofWord (n : UInt32) : (ofWord n).toRat = n.toNat := by
  rw [toRat_eq_units_div]
  simp [ofWord, units, tenPow]

end Decimal

open Decimal

theorem toRat_monthlyShare (yearly : Decimal) :
    (monthlyShare yearly).toRat = nearestTo (yearly.toRat / 12) := by
  have twelve : (ofWord 12).toRat = 12 := toRat_ofWord 12
  obtain ⟨share, divided, value⟩ := exists_div? yearly (y := ofWord 12) (by norm_num [twelve])
  rw [monthlyShare, divided, Option.getD_some, value, twelve]

theorem toRat_of_percentOf {base percent amount : Decimal}
    (computed : percentOf base percent = .ok amount) :
    amount.toRat = nearestTo (nearestTo (base.toRat * percent.toRat) / 100) := by
  have hundred : (ofWord 100).toRat = 100 := toRat_ofWord 100
  rw [percentOf] at computed
  split at computed
  · next found =>
    cases computed
    obtain ⟨product, multiplied, divided⟩ := Option.bind_eq_some_iff.mp found
    have quotient := toRat_div? product (y := ofWord 100) (by norm_num [hundred])
    rw [toRat_eq_nearestTo quotient divided, hundred,
      toRat_eq_nearestTo (toRat_mul? base percent) multiplied]
  · cases computed

/-! ## Order -/

theorem Decimal.AtMost.monthlyShare {yearly yearly' : Decimal} (raised : yearly.AtMost yearly') :
    (monthlyShare yearly).AtMost (monthlyShare yearly') := by
  rw [AtMost, toRat_monthlyShare, toRat_monthlyShare]
  exact nearestTo_mono (div_le_div_of_nonneg_right raised (by norm_num))

/-- A percentage that is not below zero keeps the order of what it is taken of. -/
theorem Decimal.AtMost.percentOf {base base' percent amount amount' : Decimal}
    (raised : base.AtMost base') (nonneg : 0 ≤ percent.toRat) (computed : percentOf base percent = .ok amount)
    (computed' : percentOf base' percent = .ok amount') : amount.AtMost amount' := by
  rw [AtMost, toRat_of_percentOf computed, toRat_of_percentOf computed']
  have product := nearestTo_mono (mul_le_mul_of_nonneg_right raised nonneg)
  exact nearestTo_mono (div_le_div_of_nonneg_right product (by norm_num))

end Payslip
