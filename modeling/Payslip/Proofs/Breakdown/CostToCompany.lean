/-
# A higher cost to company never lowers a line

Under a catalog of components whose amounts grow with the cost to company, an employee who costs
more has no line with less on it, neither of earnings nor of deductions. Prorating keeps this as
long as the month has as many days as are unpaid: beyond that the payable days are negative and
turn the order of the earnings around.

Only lines are compared. The net pay may well be lower at a higher cost, when deductions grow faster
than earnings.
-/

import Payslip.Proofs.Breakdown.Comparison
import Payslip.Proofs.Breakdown.Proration
import Payslip.Proofs.Evaluation.Growth

namespace Payslip

open Decimal

/-- More is due of a component with a larger full value, if no more days are unpaid than a month
has. -/
theorem dueAmount_atMost {employee : Employee} {component : Component}
    {full full' due due' ctc : Decimal} (raised : full.AtMost full')
    (within : employee.unpaidDays ≤ 30) (owed : dueAmount employee component full = .ok due)
    (owed' : dueAmount { employee with ctc } component full' = .ok due') : due.AtMost due' := by
  rw [dueAmount] at owed owed'
  split at owed
  · next reduced =>
    rw [if_pos reduced] at owed'
    exact raised.prorate within owed owed'
  · next unreduced =>
    rw [if_neg unreduced] at owed'
    cases owed
    cases owed'
    exact raised

namespace Breakdown

variable {employee : Employee} {salaryStructure : SalaryStructure} {catalog : Catalog}
  {workingDays : Option UInt32} {ctc : Decimal} {breakdown again : Breakdown}

/-- What is due of a component does not fall when the cost to company rises. -/
theorem Assessed.due_atMost {full full' due due' : Component → Decimal} {component : Component}
    (assessed : Assessed employee salaryStructure catalog full due)
    (assessed' : Assessed { employee with ctc } salaryStructure catalog full' due')
    (grows : ∀ component ∈ catalog, component.Grows) (within : employee.unpaidDays ≤ 30)
    (raised : employee.ctc.AtMost ctc) (listed : component ∈ salaryStructure.components catalog) :
    (due component).AtMost (due' component) := by
  have values := Plain.component_related grows raised.monthlyShare ∅ (List.mem_filter.mp listed).1
  have full_atMost := values.of_ok _ _ (assessed.full_eq component listed)
    (assessed'.full_eq component listed)
  exact dueAmount_atMost full_atMost within (assessed.due_eq component listed)
    (assessed'.due_eq component listed)

/-- With a higher cost to company, and otherwise unchanged, an employee has the same lines with no
less on any of them. -/
theorem calculate_monotone_ctc (distinct : catalog.ids.Nodup)
    (grows : ∀ component ∈ catalog, component.Grows) (within : employee.unpaidDays ≤ 30)
    (raised : employee.ctc.toRat ≤ ctc.toRat)
    (made : calculate employee salaryStructure catalog workingDays = .ok breakdown)
    (made' : calculate { employee with ctc } salaryStructure catalog workingDays = .ok again) :
    List.Forall₂ LineItem.AtMost breakdown.earnings again.earnings ∧
      List.Forall₂ LineItem.AtMost breakdown.deductions again.deductions := by
  obtain ⟨full, due, assessed, itemizes⟩ := (calculate_eq_ok_iff distinct).mp made
  obtain ⟨full', due', assessed', itemizes'⟩ := (calculate_eq_ok_iff distinct).mp made'
  have lines (kind : Component.Kind) :
      List.Forall₂ LineItem.AtMost (dueLines kind (salaryStructure.components catalog) due)
        (dueLines kind (salaryStructure.components catalog) due') :=
    dueLines_atMost fun _ listed _ => assessed.due_atMost assessed' grows within raised listed
  rw [itemizes.earnings_eq, itemizes'.earnings_eq, itemizes.deductions_eq, itemizes'.deductions_eq]
  exact ⟨lines .earning, lines .deduction⟩

/-- A formula that begins with an operator and refers to a component that does not exist, the
prorated earning that it refers to, a deduction of a percentage of nothing that exists, and a fixed
amount below zero. -/
def growingCatalog : Catalog :=
  [.formula "hra" "House Rent" .earning
      [.operator .add, .percentage (.ofWord 50) (.component "basic"), .operator .add,
        .value (.component "perk")],
    (Component.percentage "basic" "Basic" .earning (.ofWord 40) .ctc).withProration,
    .percentage "fund" "Fund" .deduction (.ofWord 12) (.component "gone"),
    .fixed "debt" "Debt" .earning (ofWord 7).negate]

theorem calculate_monotone_ctc_growingCatalog :
    growingCatalog.ids.Nodup ∧ (∀ component ∈ growingCatalog, component.Grows) ∧
    (4 : UInt32) ≤ 30 ∧ (ofWord 1000000).toRat ≤ (Decimal.mk false 10000005 1).toRat ∧
    ∃ breakdown again,
      calculate ⟨"E1", "Asha", .ofWord 1000000, 4, none⟩
        ⟨"std", "Standard", ["basic", "hra", "fund", "debt"]⟩ growingCatalog none =
          .ok breakdown ∧
      calculate ⟨"E1", "Asha", .mk false 10000005 1, 4, none⟩
        ⟨"std", "Standard", ["basic", "hra", "fund", "debt"]⟩ growingCatalog none = .ok again ∧
      (breakdown.earnings ++ again.earnings).map (fun item => (item.name, item.amount.render)) =
        [("House Rent", "16666.67"), ("Basic", "28888.89"), ("Debt", "-7"),
          ("House Rent", "16666.68"), ("Basic", "28888.90"), ("Debt", "-7")] ∧
      List.Forall₂ LineItem.AtMost breakdown.earnings again.earnings ∧
      List.Forall₂ LineItem.AtMost breakdown.deductions again.deductions := by
  have distinct : growingCatalog.ids.Nodup := by decide
  have grows : ∀ component ∈ growingCatalog, component.Grows := by decide +kernel
  have raised : (ofWord 1000000).toRat ≤ (Decimal.mk false 10000005 1).toRat := by decide +kernel
  have shown :
      (do
        let breakdown ← calculate ⟨"E1", "Asha", .ofWord 1000000, 4, none⟩
          ⟨"std", "Standard", ["basic", "hra", "fund", "debt"]⟩ growingCatalog none
        let again ← calculate ⟨"E1", "Asha", .mk false 10000005 1, 4, none⟩
          ⟨"std", "Standard", ["basic", "hra", "fund", "debt"]⟩ growingCatalog none
        return (breakdown.earnings ++ again.earnings).map
          fun item : LineItem => (item.name, item.amount.render)).toOption =
      some [("House Rent", "16666.67"), ("Basic", "28888.89"), ("Debt", "-7"),
          ("House Rent", "16666.68"), ("Basic", "28888.90"), ("Debt", "-7")] := by
    decide +kernel
  obtain ⟨breakdown, made, shown⟩ :=
    Outcome.bind_eq_ok_iff.mp (Outcome.eq_ok_of_toOption_eq_some shown)
  obtain ⟨again, made', shown⟩ := Outcome.bind_eq_ok_iff.mp shown
  obtain ⟨earnings, deductions⟩ :=
    calculate_monotone_ctc distinct grows (by decide) raised made made'
  exact ⟨distinct, grows, by decide, raised, breakdown, again, made, made', Except.ok.inj shown,
    earnings, deductions⟩

end Breakdown

end Payslip
