/-
# Pay does not depend on the order of the catalog

The order of a catalog decides which components are evaluated on their own and which
because another one refers to them, what is in store when, and in which order lines are
added up. None of this shows in what anybody is paid. Plain evaluation only looks components
up, and among distinct ids every order finds the same ones; so the same is due of every
component. Its lines then stand in the order of the catalog, and their totals are the same
numbers as long as they add exactly.
-/

import Payslip.Proofs.Breakdown.ExactSums
import Payslip.Proofs.Breakdown.Itemization
import Payslip.Proofs.Breakdown.Numbers

namespace Payslip

/-! ## Looking components up -/

/-- Among distinct ids the order of a catalog does not matter for what is found. -/
theorem Catalog.component?_perm {catalog shuffled : Catalog} (distinct : catalog.ids.Nodup)
    (same : catalog.Perm shuffled) (id : String) :
    shuffled.component? id = catalog.component? id := by
  have distinct' : shuffled.ids.Nodup := (same.map _).nodup_iff.mp distinct
  cases found : catalog.component? id with
  | some component =>
      have listed := same.mem_iff.mp (mem_of_component? found)
      rw [← id_of_component? found]
      exact component?_of_mem distinct' listed
  | none =>
      cases other : shuffled.component? id with
      | none => rfl
      | some component =>
          have listed := same.mem_iff.mpr (mem_of_component? other)
          have found' := component?_of_mem distinct listed
          rw [id_of_component? other, found] at found'
          cases found'

theorem SalaryStructure.components_perm (salaryStructure : SalaryStructure)
    {catalog shuffled : Catalog} (same : catalog.Perm shuffled) :
    (salaryStructure.components catalog).Perm (salaryStructure.components shuffled) :=
  same.filter _

namespace Plain

variable {catalog again : Catalog}

/-- Plain evaluation knows a catalog only by what is found in it. -/
theorem amount?_congr (same : ∀ id, again.component? id = catalog.component? id)
    (monthly : Decimal) (known : Amounts) (inProgress : List String) (id : String) :
    amount? again monthly known inProgress id = amount? catalog monthly known inProgress id := by
  induction inProgress, id using catalog.followReferences with
  | _ inProgress id deeper =>
      cases unknown : known.get? id with
      | some amount => rw [amount?_of_known unknown, amount?_of_known unknown]
      | none =>
          cases found : catalog.component? id with
          | none =>
              rw [amount?_of_missing unknown found,
                amount?_of_missing unknown ((same id).trans found)]
          | some entry =>
              have found' := (same id).trans found
              by_cases met : id ∈ inProgress
              · rw [amount?_of_mem unknown found met, amount?_of_mem unknown found' met]
              · rw [amount?_of_not_mem unknown found met, amount?_of_not_mem unknown found' met]
                congr 1
                apply Component.value_congr
                exact fun dependency _ => deeper entry found met dependency

theorem component_congr (same : ∀ id, again.component? id = catalog.component? id)
    (monthly : Decimal) (known : Amounts) (entry : Component) :
    component again monthly known entry = component catalog monthly known entry := by
  apply Component.value_congr
  exact fun dependency _ => amount?_congr same monthly known [entry.id] dependency

end Plain

namespace Breakdown

variable {employee : Employee} {salaryStructure : SalaryStructure} {catalog shuffled : Catalog}
  {workingDays : Option UInt32} {due : Component → Decimal} {breakdown : Breakdown}

/-! ## The lines -/

theorem dueLines_perm {components others : List Component} (kind : Component.Kind)
    (same : components.Perm others) (due : Component → Decimal) :
    (dueLines kind components due).Perm (dueLines kind others due) :=
  (same.filter _).map _

theorem Assessed.perm {full : Component → Decimal} (distinct : catalog.ids.Nodup)
    (same : catalog.Perm shuffled) (assessed : Assessed employee salaryStructure catalog full due) :
    Assessed employee salaryStructure shuffled full due where
  full_eq := fun component listed => by
    rw [Plain.component_congr (Catalog.component?_perm distinct same)]
    exact assessed.full_eq component ((salaryStructure.components_perm same).mem_iff.mpr listed)
  due_eq := fun component listed =>
    assessed.due_eq component ((salaryStructure.components_perm same).mem_iff.mpr listed)

/-! ## The totals -/

/-- The amounts of all lines, of earnings and of deductions. -/
def amounts (breakdown : Breakdown) : List Decimal :=
  (breakdown.earnings ++ breakdown.deductions).map (·.amount)

theorem absoluteSum_amounts (breakdown : Breakdown) :
    absoluteSum breakdown.amounts =
      absoluteSum (breakdown.earnings.map (·.amount)) +
        absoluteSum (breakdown.deductions.map (·.amount)) := by
  rw [amounts, List.map_append, absoluteSum_append]

theorem InCents.earnings_addExactly (inCents : breakdown.InCents)
    (small : absoluteSum breakdown.amounts < 2 ^ 96 / 100) :
    AddExactly (breakdown.earnings.map (·.amount)) where
  inCents := List.forall_mem_map.mpr inCents.earnings
  small := by
    have others := absoluteSum_nonneg (breakdown.deductions.map (·.amount))
    rw [absoluteSum_amounts] at small
    linarith

theorem InCents.deductions_addExactly (inCents : breakdown.InCents)
    (small : absoluteSum breakdown.amounts < 2 ^ 96 / 100) :
    AddExactly (breakdown.deductions.map (·.amount)) where
  inCents := List.forall_mem_map.mpr inCents.deductions
  small := by
    have others := absoluteSum_nonneg (breakdown.earnings.map (·.amount))
    rw [absoluteSum_amounts] at small
    linarith

/-- The lines of the breakdown are what is due of the components, in the order of the catalog. -/
structure Lists (salaryStructure : SalaryStructure) (catalog : Catalog) (due : Component → Decimal)
    (breakdown : Breakdown) : Prop where
  earnings_eq :
    breakdown.earnings = dueLines .earning (salaryStructure.components catalog) due
  deductions_eq :
    breakdown.deductions = dueLines .deduction (salaryStructure.components catalog) due

/-- The same pay, with the lines in the order of another catalog. -/
structure Reordered (salaryStructure : SalaryStructure) (catalog shuffled : Catalog)
    (breakdown again : Breakdown) : Prop where
  employeeId_eq : again.employeeId = breakdown.employeeId
  employeeName_eq : again.employeeName = breakdown.employeeName
  structureName_eq : again.structureName = breakdown.structureName
  lines : ∃ due, breakdown.Lists salaryStructure catalog due ∧
    again.Lists salaryStructure shuffled due
  earnings : breakdown.earnings.Perm again.earnings
  deductions : breakdown.deductions.Perm again.deductions
  totalEarnings : breakdown.totalEarnings.Alike again.totalEarnings
  totalDeductions : breakdown.totalDeductions.Alike again.totalDeductions
  grossPay : breakdown.grossPay.Alike again.grossPay
  netPay : breakdown.netPay.Alike again.netPay
  unpaidDays_eq : again.unpaidDays = breakdown.unpaidDays
  workingDays_eq : again.workingDays = breakdown.workingDays
  payableDays_eq : again.payableDays = breakdown.payableDays

/-- What is due can be itemized in any order if it adds exactly, and the pay is the same. -/
theorem Itemizes.exists_reordered
    (itemizes : Itemizes employee salaryStructure catalog workingDays due breakdown)
    (same : catalog.Perm shuffled) (small : absoluteSum breakdown.amounts < 2 ^ 96 / 100) :
    ∃ again, Itemizes employee salaryStructure shuffled workingDays due again ∧
      breakdown.Reordered salaryStructure catalog shuffled again := by
  let earnings := dueLines .earning (salaryStructure.components shuffled) due
  let deductions := dueLines .deduction (salaryStructure.components shuffled) due
  have listed := salaryStructure.components_perm same
  have sameEarnings : breakdown.earnings.Perm earnings := by
    rw [itemizes.earnings_eq]
    exact dueLines_perm .earning listed due
  have sameDeductions : breakdown.deductions.Perm deductions := by
    rw [itemizes.deductions_eq]
    exact dueLines_perm .deduction listed due
  obtain ⟨earned, earned_eq, alikeEarned⟩ :=
    (itemizes.inCents.earnings_addExactly small).exists_sumToCents_perm (sameEarnings.map _)
      (sumToCents_eq_ok_iff.mpr itemizes.totalEarnings_eq)
  obtain ⟨deducted, deducted_eq, alikeDeducted⟩ :=
    (itemizes.inCents.deductions_addExactly small).exists_sumToCents_perm (sameDeductions.map _)
      (sumToCents_eq_ok_iff.mpr itemizes.totalDeductions_eq)
  obtain ⟨net, left, alikeNet⟩ :=
    (netPay_alike alikeEarned alikeDeducted).exists_ok (netPay_eq_ok_iff.mpr itemizes.netPay_eq)
  refine ⟨{ breakdown with
      earnings
      deductions
      totalEarnings := earned
      totalDeductions := deducted
      grossPay := earned
      netPay := net }, ?_, ?_⟩
  · exact ⟨itemizes.employeeId_eq, itemizes.employeeName_eq, itemizes.structureName_eq, rfl, rfl,
      sumToCents_eq_ok_iff.mp earned_eq, sumToCents_eq_ok_iff.mp deducted_eq, rfl,
      netPay_eq_ok_iff.mp left, itemizes.unpaidDays_eq, itemizes.workingDays_eq,
      itemizes.payableDays_eq⟩
  · have alikeGross : breakdown.grossPay.Alike earned := by
      rw [itemizes.grossPay_eq]
      exact alikeEarned
    exact ⟨rfl, rfl, rfl, ⟨due, ⟨itemizes.earnings_eq, itemizes.deductions_eq⟩, rfl, rfl⟩,
      sameEarnings, sameDeductions, alikeEarned, alikeDeducted, alikeGross, alikeNet, rfl, rfl,
      rfl⟩

/-- An employee whose lines add exactly is paid the same in any order of the catalog. -/
theorem exists_reordered_of_calculate (distinct : catalog.ids.Nodup)
    (same : catalog.Perm shuffled)
    (made : calculate employee salaryStructure catalog workingDays = .ok breakdown)
    (small : absoluteSum breakdown.amounts < 2 ^ 96 / 100) :
    ∃ again, calculate employee salaryStructure shuffled workingDays = .ok again ∧
      breakdown.Reordered salaryStructure catalog shuffled again := by
  obtain ⟨full, due, assessed, itemizes⟩ := (calculate_eq_ok_iff distinct).mp made
  obtain ⟨again, itemizes', reordered⟩ := itemizes.exists_reordered same small
  have distinct' : shuffled.ids.Nodup := (same.map _).nodup_iff.mp distinct
  exact ⟨again, (calculate_eq_ok_iff distinct').mpr
    ⟨full, due, assessed.perm distinct same, itemizes'⟩, reordered⟩

end Breakdown

end Payslip
