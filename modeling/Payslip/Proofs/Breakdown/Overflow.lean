/-
# When a percentage or a proration is out of range

Both multiply and then divide by a whole number. Only the product can be out of range, and it is
so exactly when it would be rounded to `2 ^ 96` or beyond: from half a unit below on, since the
last coefficient is odd and a half goes to the even neighbour. The quotient lies nearer to zero
than the product, so dividing it never fails, and neither does the division that makes a monthly
share of a yearly amount.
-/

import Payslip.Proofs.Breakdown.Proration

namespace Payslip

open Decimal

namespace Decimal

variable {v : ℚ} {x y : Decimal}

theorem not_fits_zero_iff : ¬ Fits v 0 ↔ 2 ^ 96 - 1 / 2 ≤ |v| := by
  have bound_eq : (bound : ℚ) = 2 ^ 96 := by norm_num [bound]
  rw [Fits, tenPow_zero, Nat.cast_one, mul_one, not_lt, bound_eq]

theorem mul?_eq_none_iff : x.mul? y = none ↔ ¬ Fits (x.toRat * y.toRat) 0 := by
  rw [← Option.map_eq_none_iff (f := toRat), toRat_mul?, nearest?]
  split
  · next fits => simp [fits]
  · next large => simp [large]

/-- Dividing by a positive word always has a result. -/
theorem isSome_div?_ofWord (x : Decimal) {divisor : UInt32} (positive : 0 < divisor) :
    (x.div? (ofWord divisor)).isSome = true := by
  have large : 1 ≤ (ofWord divisor).toRat := by
    rw [toRat_ofWord]
    exact_mod_cast UInt32.lt_iff_toNat_lt.mp positive
  obtain ⟨quotient, divided, -⟩ := exists_div? x large
  rw [divided, Option.isSome_some]

/-- So a product that is divided by one is missing only if it is out of range itself. -/
theorem mul?_div?_eq_none_iff {divisor : UInt32} (positive : 0 < divisor) :
    (x.mul? y).bind (·.div? (ofWord divisor)) = none ↔
      2 ^ 96 - 1 / 2 ≤ |x.toRat * y.toRat| := by
  rw [← not_fits_zero_iff, ← mul?_eq_none_iff, Option.bind_eq_none_iff]
  constructor
  · intro missing
    by_contra reached
    obtain ⟨product, multiplied⟩ := Option.ne_none_iff_exists'.mp reached
    have divides := product.isSome_div?_ofWord positive
    rw [missing product multiplied] at divides
    cases divides
  · intro missing product multiplied
    rw [missing] at multiplied
    cases multiplied

end Decimal

/-! ## Percentages and prorated amounts -/

theorem percentOf_eq_error_iff (base percent : Decimal) :
    percentOf base percent = .error (.calculation (.percentage percent base)) ↔
      2 ^ 96 - 1 / 2 ≤ |base.toRat * percent.toRat| := by
  rw [← mul?_div?_eq_none_iff (by decide : (0 : UInt32) < 100), percentOf]
  split
  · next found => simp [found]
  · next missing => simp [missing]

theorem prorate_eq_error_iff (amount : Decimal) (unpaidDays : UInt32) :
    prorate amount unpaidDays =
        .error (.calculation (.proration amount (payableDays unpaidDays))) ↔
      2 ^ 96 - 1 / 2 ≤ |amount.toRat * (30 - (unpaidDays.toNat : ℚ))| := by
  obtain ⟨days, found, days_eq⟩ := exists_payableDays unpaidDays
  rw [← days_eq, ← mul?_div?_eq_none_iff (by decide : 0 < monthDays)]
  simp only [prorate, found, Option.bind_eq_bind, Option.bind_some]
  split
  · next reached => simp [reached]
  · next missing => simp [missing]

theorem exists_percentOf_iff (base percent : Decimal) :
    (∃ amount, percentOf base percent = .ok amount) ↔
      |base.toRat * percent.toRat| < 2 ^ 96 - 1 / 2 := by
  rw [← not_le, ← percentOf_eq_error_iff, percentOf]
  split <;> simp

theorem exists_prorate_iff (amount : Decimal) (unpaidDays : UInt32) :
    (∃ prorated, prorate amount unpaidDays = .ok prorated) ↔
      |amount.toRat * (30 - (unpaidDays.toNat : ℚ))| < 2 ^ 96 - 1 / 2 := by
  rw [← not_le, ← prorate_eq_error_iff]
  simp only [prorate]
  split <;> simp

/-- A monthly share always exists. A percentage and a prorated amount are out of range if and only
if the product behind them is, and have a value in every other case: no division fails. -/
theorem out_of_range_iff :
    (∀ yearly : Decimal, yearly.div? (ofWord 12) = some (monthlyShare yearly)) ∧
    (∀ base percent : Decimal,
      (percentOf base percent = .error (.calculation (.percentage percent base)) ↔
        2 ^ 96 - 1 / 2 ≤ |base.toRat * percent.toRat|) ∧
      ((∃ amount, percentOf base percent = .ok amount) ↔
        |base.toRat * percent.toRat| < 2 ^ 96 - 1 / 2)) ∧
    (∀ (amount : Decimal) (unpaidDays : UInt32),
      (prorate amount unpaidDays =
          .error (.calculation (.proration amount (payableDays unpaidDays))) ↔
        2 ^ 96 - 1 / 2 ≤ |amount.toRat * (30 - (unpaidDays.toNat : ℚ))|) ∧
      ((∃ prorated, prorate amount unpaidDays = .ok prorated) ↔
        |amount.toRat * (30 - (unpaidDays.toNat : ℚ))| < 2 ^ 96 - 1 / 2)) ∧
    ∀ dividend : Decimal, ∀ divisor ∈ [12, 100, monthDays],
      (dividend.div? (ofWord divisor)).isSome = true := by
  refine ⟨?share, ?percentage, ?proration, ?divisions⟩
  case share =>
    intro yearly
    obtain ⟨share, divided⟩ := Option.isSome_iff_exists.mp
      (yearly.isSome_div?_ofWord (by decide : (0 : UInt32) < 12))
    rw [monthlyShare, divided, Option.getD_some]
  case percentage =>
    exact fun base percent =>
      ⟨percentOf_eq_error_iff base percent, exists_percentOf_iff base percent⟩
  case proration =>
    exact fun amount unpaidDays =>
      ⟨prorate_eq_error_iff amount unpaidDays, exists_prorate_iff amount unpaidDays⟩
  case divisions =>
    intro dividend divisor listed
    have positive : 0 < divisor := by
      simp only [List.mem_cons, List.not_mem_nil, or_false] at listed
      rcases listed with rfl | rfl | rfl <;> decide
    exact dividend.isSome_div?_ofWord positive

/-- Half a unit below the bound is too much already; with the least smaller percentage it is not. -/
theorem out_of_range_iff_edges :
    2 ^ 96 - 1 / 2 =
      |(Decimal.mk false 13842607235828485645766393 0).toRat * (Decimal.mk false 57235 1).toRat| ∧
    percentOf (.mk false 13842607235828485645766393 0) (.mk false 57235 1) =
      .error (.calculation (.percentage (.mk false 57235 1)
        (.mk false 13842607235828485645766393 0))) ∧
    (∃ amount, percentOf (.mk false 13842607235828485645766393 0)
      (.mk false 57234999999999999999999999999 25) = .ok amount) ∧
    monthDays ∈ [12, 100, monthDays] ∧
    ((Decimal.mk true 57235 1).div? (ofWord monthDays)).isSome = true := by
  obtain ⟨-, percentage, -, divides⟩ := out_of_range_iff
  have edge : 2 ^ 96 - 1 / 2 = |(Decimal.mk false 13842607235828485645766393 0).toRat *
      (Decimal.mk false 57235 1).toRat| := by
    decide +kernel
  refine ⟨edge, (percentage _ _).1.mpr edge.le, (percentage _ _).2.mpr ?_, ?_, ?_⟩
  · decide +kernel
  · exact List.mem_of_getLast? rfl
  · exact divides _ _ (List.mem_of_getLast? rfl)

end Payslip
