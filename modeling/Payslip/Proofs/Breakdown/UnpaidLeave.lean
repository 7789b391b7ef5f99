/-
# More unpaid leave never raises pay

Unpaid leave enters a breakdown in one place: earnings that are marked for it are multiplied with
the payable days and divided by thirty, unless there is no leave at all. Both steps round, so it
has to be said that a longer leave never comes out higher. That the order survives rounding is a
fact about all numbers (`nearestTo_mono`); the first day of leave needs another one, since without
leave an amount is not multiplied and divided but kept: the product with at most 29 days is never
rounded beyond 30 times the amount (`nearestTo_mul_le`).

Earnings below zero are left out, as fewer days take less from them. The days may be any number,
also more than the month has.
-/

import Payslip.Proofs.Breakdown.Comparison
import Payslip.Proofs.Breakdown.Proration

namespace Payslip

open Decimal

variable {amount prorated reduced : Decimal} {fewer more : UInt32}

/-! ## Prorating -/

/-- Rounding a product with 29 moves it by no more than the amount itself. -/
theorem half_unit_le (positive : 0 < amount.toRat) :
    1 / (2 * (tenPow (lastScale (amount.toRat * 29)) : ℚ)) ≤ amount.toRat := by
  have power := tenPow_cast_pos (lastScale (amount.toRat * 29))
  have unit : 1 ≤ amount.toRat * (2 * tenPow (lastScale (amount.toRat * 29))) := by
    have within : lastScale (amount.toRat * 29) ≤ maxScale := Nat.findGreatest_le maxScale
    rcases within.eq_or_lt with finest | coarser
    · -- at the finest scale every amount is a whole number of units
      have whole := units_mul_tenPow amount.scale_le
      have some_units : 0 < amount.units * (tenPow (maxScale - amount.scale) : ℤ) := by
        rw [← Int.cast_pos (R := ℚ), whole]
        exact mul_pos positive (tenPow_cast_pos maxScale)
      have least : (1 : ℚ) ≤ amount.toRat * tenPow maxScale := by
        rw [← whole]
        exact_mod_cast some_units
      rw [finest]
      linarith
    · have full := not_fits_of_lastScale_lt (Nat.lt_succ_self _) coarser
      rw [Fits, not_lt, abs_of_pos (mul_pos positive (by norm_num)), Nat.succ_eq_add_one,
        tenPow_succ, Nat.cast_mul, Nat.cast_ofNat] at full
      norm_num [bound] at full
      linarith
  rwa [div_le_iff₀ (by linarith)]

/-- The product with fewer days than the month has is not rounded beyond that with all of them. -/
theorem nearestTo_mul_le (nonneg : 0 ≤ amount.toRat) {days : ℚ} (some_unpaid : days ≤ 29) :
    nearestTo (amount.toRat * days) ≤ amount.toRat * 30 := by
  rcases nonneg.eq_or_lt with zero | positive
  · have product : amount.toRat * days ≤ (0 : Decimal).toRat := by simp [← zero]
    simpa [← zero] using nearestTo_le_toRat product
  · have off := (abs_le.mp (abs_sub_roundAt_le (amount.toRat * 29)
      (lastScale (amount.toRat * 29)))).1
    have unit := half_unit_le positive
    calc nearestTo (amount.toRat * days)
        ≤ nearestTo (amount.toRat * 29) :=
          nearestTo_mono (mul_le_mul_of_nonneg_left some_unpaid nonneg)
      _ ≤ amount.toRat * 29 + 1 / (2 * tenPow (lastScale (amount.toRat * 29))) := by
          rw [nearestTo]
          linarith
      _ ≤ amount.toRat * 30 := by linarith

/-- An amount that is not below zero is prorated to no more the more days are unpaid. -/
theorem prorate_antitone (nonneg : 0 ≤ amount.toRat) (longer : fewer ≤ more)
    (computed : prorate amount fewer = .ok prorated)
    (computed' : prorate amount more = .ok reduced) : reduced.AtMost prorated := by
  have days : (fewer.toNat : ℚ) ≤ more.toNat := by
    exact_mod_cast UInt32.le_iff_toNat_le.mp longer
  rw [AtMost, toRat_of_prorate computed, toRat_of_prorate computed']
  have product := nearestTo_mono
    (mul_le_mul_of_nonneg_left (sub_le_sub_left days (30 : ℚ)) nonneg)
  exact nearestTo_mono (div_le_div_of_nonneg_right product (by norm_num))

/-- With a day of unpaid leave it is prorated to no more than itself. -/
theorem prorate_atMost (nonneg : 0 ≤ amount.toRat) (some_unpaid : 0 < more)
    (computed : prorate amount more = .ok reduced) : reduced.AtMost amount := by
  have days : (1 : ℚ) ≤ more.toNat := by
    exact_mod_cast UInt32.lt_iff_toNat_lt.mp some_unpaid
  have few : (30 : ℚ) - more.toNat ≤ 29 := by linarith
  have product := nearestTo_mul_le nonneg few
  rw [AtMost, toRat_of_prorate computed]
  exact nearestTo_le_toRat (by linarith)

/-! ## What is due -/

section Due

variable {employee : Employee} {component : Component} {full due left : Decimal}

/-- Unpaid leave is of no concern to deductions and to earnings that are not marked for it. -/
theorem dueAmount_of_not_marked (employee : Employee)
    (unmarked : ¬ (component.kind = .earning ∧ component.prorated = true)) :
    dueAmount employee component full = .ok full :=
  if_neg fun reduced => unmarked ⟨reduced.1, reduced.2.1⟩

/-- Of a full value that is not below zero no more is due the more days are unpaid. -/
theorem dueAmount_antitone (nonneg : 0 ≤ full.toRat) (longer : employee.unpaidDays ≤ more)
    (owed : dueAmount employee component full = .ok due)
    (owed' : dueAmount { employee with unpaidDays := more } component full = .ok left) :
    left.AtMost due := by
  by_cases marked : component.kind = .earning ∧ component.prorated = true
  · by_cases unpaid : 0 < employee.unpaidDays
    · have unpaid' : 0 < more := UInt32.lt_of_lt_of_le unpaid longer
      rw [dueAmount, if_pos ⟨marked.1, marked.2, unpaid⟩] at owed
      rw [dueAmount, if_pos ⟨marked.1, marked.2, unpaid'⟩] at owed'
      exact prorate_antitone nonneg longer owed owed'
    · rw [dueAmount, if_neg fun reduced => unpaid reduced.2.2] at owed
      cases owed
      by_cases unpaid' : 0 < more
      · rw [dueAmount, if_pos ⟨marked.1, marked.2, unpaid'⟩] at owed'
        exact prorate_atMost nonneg unpaid' owed'
      · rw [dueAmount, if_neg fun reduced => unpaid' reduced.2.2] at owed'
        cases owed'
        exact .refl full
  · rw [dueAmount_of_not_marked _ marked] at owed owed'
    cases owed
    cases owed'
    exact .refl full

end Due

/-! ## The breakdown -/

namespace Breakdown

variable {employee other : Employee} {salaryStructure : SalaryStructure} {catalog : Catalog}
  {workingDays : Option UInt32} {breakdown lower : Breakdown}

section Assessed

variable {full due left : Component → Decimal} {component : Component}

/-- The same is due to everybody of a component that unpaid leave is of no concern to. -/
theorem Assessed.eq_of_not_marked
    (assessed : Assessed employee salaryStructure catalog full due)
    (assessed' : Assessed other salaryStructure catalog full left)
    (listed : component ∈ salaryStructure.components catalog)
    (unmarked : ¬ (component.kind = .earning ∧ component.prorated = true)) :
    left component = due component := by
  have owed := assessed.due_eq component listed
  have owed' := assessed'.due_eq component listed
  rw [dueAmount_of_not_marked _ unmarked] at owed owed'
  exact (Except.ok.inj owed').symm.trans (Except.ok.inj owed)

theorem Assessed.left_atMost (assessed : Assessed employee salaryStructure catalog full due)
    (assessed' : Assessed { employee with unpaidDays := more } salaryStructure catalog full left)
    (longer : employee.unpaidDays ≤ more)
    (listed : component ∈ salaryStructure.components catalog)
    (nonneg : 0 ≤ (full component).toRat) : (left component).AtMost (due component) :=
  dueAmount_antitone nonneg longer (assessed.due_eq component listed)
    (assessed'.due_eq component listed)

end Assessed

/-- With more unpaid days the deductions and their total stay as they are, and no earning whose full
value is not below zero rises. If all earnings that are marked for unpaid leave are of that kind,
neither the total of the earnings nor the net pay rises. -/
theorem calculate_antitone_unpaidDays (distinct : catalog.ids.Nodup)
    (longer : employee.unpaidDays ≤ more)
    (made : calculate employee salaryStructure catalog workingDays = .ok breakdown)
    (made' : calculate { employee with unpaidDays := more } salaryStructure catalog workingDays =
      .ok lower) :
    lower.deductions = breakdown.deductions ∧
    lower.totalDeductions = breakdown.totalDeductions ∧
    ∃ full due left,
      Assessed employee salaryStructure catalog full due ∧
      Itemizes employee salaryStructure catalog workingDays due breakdown ∧
      Assessed { employee with unpaidDays := more } salaryStructure catalog full left ∧
      Itemizes { employee with unpaidDays := more } salaryStructure catalog workingDays left
        lower ∧
      (∀ component ∈ salaryStructure.components catalog, component.kind = .earning →
        0 ≤ (full component).toRat →
        (roundToCents (left component)).toRat ≤ (roundToCents (due component)).toRat) ∧
      ((∀ component ∈ salaryStructure.components catalog, component.kind = .earning →
          component.prorated = true → 0 ≤ (full component).toRat) →
        lower.totalEarnings.toRat ≤ breakdown.totalEarnings.toRat ∧
        lower.netPay.toRat ≤ breakdown.netPay.toRat) := by
  obtain ⟨full, due, assessed, itemizes⟩ := (calculate_eq_ok_iff distinct).mp made
  obtain ⟨full', left, again, itemizes'⟩ := (calculate_eq_ok_iff distinct).mp made'
  have assessed' := assessed.with_full again rfl
  have deductions : lower.deductions = breakdown.deductions := by
    rw [itemizes.deductions_eq, itemizes'.deductions_eq]
    exact dueLines_congr fun component listed kind =>
      assessed.eq_of_not_marked assessed' listed (by simp [kind])
  have totalDeductions := itemizes.totalDeductions_congr itemizes' deductions
  refine ⟨deductions, totalDeductions, full, due, left, assessed, itemizes, assessed', itemizes',
    ?_, ?_⟩
  · intro component listed _ nonneg
    exact (assessed.left_atMost assessed' longer listed nonneg).roundToCents
  · intro nonneg
    have lines : List.Forall₂ LineItem.AtMost lower.earnings breakdown.earnings := by
      rw [itemizes.earnings_eq, itemizes'.earnings_eq]
      refine dueLines_atMost fun component listed earning => ?_
      by_cases marked : component.prorated = true
      · exact assessed.left_atMost assessed' longer listed (nonneg component listed earning marked)
      · rw [assessed.eq_of_not_marked assessed' listed fun reduced => marked reduced.2]
        exact .refl _
    have total := itemizes'.totalEarnings_atMost itemizes lines
    refine ⟨total, total.sub? ?_ itemizes'.netPay_eq itemizes.netPay_eq⟩
    rw [totalDeductions]
    exact .refl _

/-- An employee who took so many days of unpaid leave. -/
def onLeave (unpaidDays : UInt32) : Employee := ⟨"E1", "Asha", .ofWord 1000000, unpaidDays, none⟩

/-- A structure of all components of `shuffledCatalog`. -/
def standardStructure : SalaryStructure := ⟨"std", "Standard", ["basic", "hra", "fund"]⟩

/-- From no unpaid day to one more than the month has: the earning that is marked for it goes below
zero, the formula that refers to it and the deduction stay. -/
theorem calculate_antitone_unpaidDays_shuffledCatalog :
    shuffledCatalog.ids.Nodup ∧ (0 : UInt32) ≤ 31 ∧
    ∃ breakdown lower,
      calculate (onLeave 0) standardStructure shuffledCatalog none = .ok breakdown ∧
      calculate (onLeave 31) standardStructure shuffledCatalog none = .ok lower ∧
      (breakdown.earnings ++ lower.earnings).map (fun item => (item.name, item.amount.render)) =
        [("House Rent", "20666.67"), ("Basic", "33333.33"),
          ("House Rent", "20666.67"), ("Basic", "-1111.11")] ∧
      lower.deductions = breakdown.deductions ∧
      lower.totalDeductions = breakdown.totalDeductions ∧
      lower.totalEarnings.toRat ≤ breakdown.totalEarnings.toRat ∧
      lower.netPay.toRat ≤ breakdown.netPay.toRat := by
  have distinct : shuffledCatalog.ids.Nodup := by decide
  have shown :
      (do
        let breakdown ← calculate (onLeave 0) standardStructure shuffledCatalog none
        let lower ← calculate (onLeave 31) standardStructure shuffledCatalog none
        return (breakdown.earnings ++ lower.earnings).map
          fun item : LineItem => (item.name, item.amount.render)).toOption =
      some [("House Rent", "20666.67"), ("Basic", "33333.33"),
        ("House Rent", "20666.67"), ("Basic", "-1111.11")] := by
    decide +kernel
  obtain ⟨breakdown, made, shown⟩ :=
    Outcome.bind_eq_ok_iff.mp (Outcome.eq_ok_of_toOption_eq_some shown)
  obtain ⟨lower, made', shown⟩ := Outcome.bind_eq_ok_iff.mp shown
  obtain ⟨deductions, totalDeductions, full, due, left, assessed, -, -, -, -, totals⟩ :=
    calculate_antitone_unpaidDays distinct (by decide) made made'
  have nonneg : ∀ component ∈ standardStructure.components shuffledCatalog,
      0 ≤ (full component).toRat := by
    have each : ∀ component ∈ standardStructure.components shuffledCatalog,
        (Plain.component shuffledCatalog (onLeave 0).monthlyCtc ∅ component).toOption.all
          (fun amount => decide (0 ≤ amount.toRat)) = true := by
      decide +kernel
    intro component listed
    have evaluated := each component listed
    rw [assessed.full_eq component listed] at evaluated
    exact of_decide_eq_true evaluated
  obtain ⟨totalEarnings, net⟩ := totals fun component listed _ _ => nonneg component listed
  exact ⟨distinct, by decide, breakdown, lower, made, made', Except.ok.inj shown, deductions,
    totalDeductions, totalEarnings, net⟩

end Breakdown

end Payslip
