/-
# What is paid of a percentage of the cost to company

A component that is a percentage of the cost to company is worth that percentage of the monthly
share, and its line in the breakdown of an employee without unpaid leave shows it in cents. The
cost is divided by twelve before anything else happens to it, so the line is not always the exact
percentage in cents: `percentageOfCtc_cents` says when it is and that otherwise one cent is missing,
`one_cent_missing` shows such a line.
-/

import Payslip.Proofs.Breakdown.Order
import Payslip.Proofs.Formula.MonthlyPercentage
import Payslip.Proofs.Formula.Rounded

namespace Payslip

open Decimal

/-! ## The value of the component -/

theorem toRat_of_plain_percentage {catalog : Catalog} {known : Amounts} {yearly amount : Decimal}
    {component : Component} (percentage : component.category = .percentage)
    (ofCtc : component.basedOn = .ctc)
    (evaluated : Plain.component catalog (monthlyShare yearly) known component = .ok amount) :
    amount.toRat = percentOfMonthly yearly.toRat component.amount.toRat := by
  have value : Plain.component catalog (monthlyShare yearly) known component =
      percentOf (monthlyShare yearly) component.amount := by
    simp only [Plain.component, Component.value, percentage, ofCtc, Reference.amount, pure_bind]
    cases percentOf (monthlyShare yearly) component.amount <;> rfl
  rw [toRat_of_percentOf (value ▸ evaluated), toRat_monthlyShare, percentOfMonthly]

/-! ## Amounts with two decimals -/

theorem exists_hundredths {amount : Decimal} (within : amount.scale ≤ 2)
    (nonneg : 0 ≤ amount.toRat) : ∃ n : ℕ, amount.toRat = n / 100 := by
  have whole := units_mul_tenPow within
  have power : (tenPow 2 : ℚ) = 100 := by norm_num [tenPow]
  rw [power] at whole
  generalize amount.units * tenPow (2 - amount.scale) = total at whole
  have positive : 0 ≤ total := by
    rw [← Int.cast_nonneg_iff (R := ℚ), whole]
    exact mul_nonneg nonneg (by norm_num)
  lift total to ℕ using positive
  refine ⟨total, ?_⟩
  rw [eq_div_iff (by norm_num), ← whole, Int.cast_natCast]

/-- Costs of up to a million million and up to thousand percent, with two decimals. -/
theorem exists_ordinary {yearly percent : Decimal} (yearly_scale : yearly.scale ≤ 2)
    (percent_scale : percent.scale ≤ 2) (yearly_nonneg : 0 ≤ yearly.toRat)
    (yearly_le : yearly.toRat ≤ 10 ^ 12) (percent_nonneg : 0 ≤ percent.toRat)
    (percent_le : percent.toRat ≤ 1000) :
    ∃ cents hundredths, Ordinary yearly.toRat percent.toRat cents hundredths := by
  obtain ⟨cents, yearly_eq⟩ := exists_hundredths yearly_scale yearly_nonneg
  obtain ⟨hundredths, percent_eq⟩ := exists_hundredths percent_scale percent_nonneg
  refine ⟨cents, hundredths, yearly_eq, percent_eq, ?_, ?_⟩
  · rw [yearly_eq, div_le_iff₀ (by norm_num)] at yearly_le
    norm_num at yearly_le
    exact_mod_cast yearly_le
  · rw [percent_eq, div_le_iff₀ (by norm_num)] at percent_le
    norm_num at percent_le
    exact_mod_cast percent_le

/-! ## The line -/

namespace Breakdown

variable {employee : Employee} {salaryStructure : SalaryStructure} {catalog : Catalog}
  {component : Component} {workingDays : Option UInt32} {breakdown : Breakdown}
  {cents hundredths : ℕ}

/-- Without unpaid leave, the line of a percentage of the cost to company is the exact percentage in
whole cents, unless half a cent is missed: then it is one cent less. -/
theorem percentageOfCtc_cents (distinct : catalog.ids.Nodup) (listed : component ∈ catalog)
    (member : salaryStructure.contains component.id = true)
    (percentage : component.category = .percentage) (ofCtc : component.basedOn = .ctc)
    (ordinary : Ordinary employee.ctc.toRat component.amount.toRat cents hundredths)
    (present : employee.unpaidDays = 0)
    (made : calculate employee salaryStructure catalog workingDays = .ok breakdown) :
    ∃ due, breakdown.Lists salaryStructure catalog due ∧
      (¬ MissesHalfCent employee.ctc.toRat component.amount.toRat →
        (roundToCents (due component)).toRat =
          wholeCents (employee.ctc.toRat * component.amount.toRat / 1200)) ∧
      (MissesHalfCent employee.ctc.toRat component.amount.toRat →
        (roundToCents (due component)).toRat =
          wholeCents (employee.ctc.toRat * component.amount.toRat / 1200) - 1 / 100) := by
  obtain ⟨full, due, assessed, itemizes⟩ := (calculate_eq_ok_iff distinct).mp made
  have included : component ∈ salaryStructure.components catalog :=
    List.mem_filter.mpr ⟨listed, member⟩
  have inFull : due component = full component := by
    have owed := assessed.due_eq component included
    rw [dueAmount, if_neg (by simp [present])] at owed
    exact (Except.ok.inj owed).symm
  have value : (due component).toRat =
      percentOfMonthly employee.ctc.toRat component.amount.toRat := by
    rw [inFull]
    exact toRat_of_plain_percentage percentage ofCtc (assessed.full_eq component included)
  have exactCents : employee.ctc.toRat * component.amount.toRat / 1200 * 100 =
      employee.ctc.toRat * component.amount.toRat / 12 := by ring
  refine ⟨due, ⟨itemizes.earnings_eq, itemizes.deductions_eq⟩, ?_, ?_⟩
  · intro reached
    rw [toRat_roundToCents, value, wholeCents, wholeCents, exactCents,
      ordinary.nearestAway_of_not_misses reached]
  · intro misses
    rw [toRat_roundToCents, value, wholeCents, wholeCents, exactCents,
      ordinary.nearestAway_of_misses misses]
    push_cast
    ring

/-- Six percent of the cost to company, and a deduction of half of that. -/
def fundCatalog : Catalog :=
  [.percentage "fund" "Fund" .earning (.ofWord 6) .ctc,
    .percentage "levy" "Levy" .deduction (.ofWord 3) .ctc]

theorem calculate_fundCatalog :
    ∃ breakdown, calculate ⟨"E1", "Asha", .ofWord 1201, 0, none⟩
        ⟨"std", "Standard", ["fund", "levy"]⟩ fundCatalog none = .ok breakdown ∧
      breakdown.earnings = [⟨"Fund", .mk false 600 2⟩] := by
  have shown : ((calculate ⟨"E1", "Asha", .ofWord 1201, 0, none⟩
      ⟨"std", "Standard", ["fund", "levy"]⟩ fundCatalog none).toOption.map (·.earnings)) =
      some [⟨"Fund", .mk false 600 2⟩] := by
    decide +kernel
  obtain ⟨breakdown, found, earnings⟩ := Option.map_eq_some_iff.mp shown
  exact ⟨breakdown, Outcome.eq_ok_of_toOption_eq_some found, earnings⟩

theorem percentageOfCtc_cents_fundCatalog :
    ∃ breakdown due, calculate ⟨"E1", "Asha", .ofWord 1201, 0, none⟩
        ⟨"std", "Standard", ["fund", "levy"]⟩ fundCatalog none = .ok breakdown ∧
      breakdown.Lists ⟨"std", "Standard", ["fund", "levy"]⟩ fundCatalog due ∧
      MissesHalfCent (ofWord 1201).toRat (ofWord 6).toRat ∧
      (roundToCents (due (.percentage "fund" "Fund" .earning (.ofWord 6) .ctc))).toRat =
        wholeCents ((ofWord 1201).toRat * (ofWord 6).toRat / 1200) - 1 / 100 := by
  obtain ⟨breakdown, made, -⟩ := calculate_fundCatalog
  have yearly : (ofWord 1201).toRat = 1201 := toRat_ofWord 1201
  have percent : (ofWord 6).toRat = 6 := toRat_ofWord 6
  obtain ⟨cents, hundredths, ordinary⟩ :
      ∃ cents hundredths, Ordinary (ofWord 1201).toRat (ofWord 6).toRat cents hundredths := by
    apply exists_ordinary (by decide) (by decide) <;> norm_num [yearly, percent]
  have misses : MissesHalfCent (ofWord 1201).toRat (ofWord 6).toRat := by
    rw [yearly, percent]
    exact ⟨⟨40033, by norm_num⟩, ⟨600, by norm_num⟩, by decide +kernel⟩
  have listed : .percentage "fund" "Fund" .earning (.ofWord 6) .ctc ∈ fundCatalog :=
    List.mem_cons_self
  obtain ⟨due, lists, -, less⟩ :=
    percentageOfCtc_cents (by decide) listed (by decide) rfl rfl ordinary rfl made
  exact ⟨breakdown, due, made, lists, misses, less misses⟩

/-- Six percent of the monthly share of 1201 are half a cent above six, which is not shown. -/
theorem one_cent_missing :
    fundCatalog.ids.Nodup ∧
    ∃ breakdown, calculate ⟨"E1", "Asha", .ofWord 1201, 0, none⟩
        ⟨"std", "Standard", ["fund", "levy"]⟩ fundCatalog none = .ok breakdown ∧
      breakdown.earnings = [⟨"Fund", .mk false 600 2⟩] ∧
      (Decimal.mk false 600 2).toRat = 6 ∧
      wholeCents ((ofWord 1201).toRat * (ofWord 6).toRat / 1200) = 601 / 100 := by
  obtain ⟨breakdown, made, earnings⟩ := calculate_fundCatalog
  exact ⟨by decide, breakdown, made, earnings, by decide +kernel, by decide +kernel⟩

end Breakdown

end Payslip
