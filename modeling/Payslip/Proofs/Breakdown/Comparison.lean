/-
# Comparing two breakdowns line by line

Two breakdowns over the same components have their lines in the same places. If what is due of each
component is no more in one of them than in the other, then so is every line of it in cents, and so
are the sums of the lines, however the partial sums are rounded.
-/

import Payslip.Proofs.Breakdown.Itemization
import Payslip.Proofs.Decimal.Monotone

namespace Payslip

/-- Lines of the same name, the first with no larger an amount. -/
structure LineItem.AtMost (item other : LineItem) : Prop where
  name_eq : other.name = item.name
  amount : item.amount.AtMost other.amount

theorem Decimal.AtMost.roundToCents {amount other : Decimal} (less : amount.AtMost other) :
    (roundToCents amount).AtMost (roundToCents other) := less.roundTo 2

/-- Partial sums keep the order of their parts. -/
theorem Decimal.AtMost.foldlM_add? {amounts others : List Decimal}
    (each : List.Forall₂ Decimal.AtMost amounts others) {total total' sum sum' : Decimal}
    (start : total.AtMost total') (summed : amounts.foldlM Decimal.add? total = some sum)
    (summed' : others.foldlM Decimal.add? total' = some sum') : sum.AtMost sum' := by
  induction each generalizing total total' with
  | nil =>
      cases summed
      cases summed'
      exact start
  | cons first _ ih =>
      rw [List.foldlM_cons] at summed summed'
      obtain ⟨next, added, onward⟩ := Option.bind_eq_some_iff.mp summed
      obtain ⟨next', added', onward'⟩ := Option.bind_eq_some_iff.mp summed'
      exact ih (start.add? first added added') onward onward'

theorem Decimal.AtMost.runningSum? {amounts others : List Decimal}
    (each : List.Forall₂ Decimal.AtMost amounts others) {sum sum' : Decimal}
    (summed : runningSum? amounts = some sum) (summed' : runningSum? others = some sum') :
    sum.AtMost sum' :=
  foldlM_add? each (.refl 0) summed summed'

namespace Breakdown

variable {employee other : Employee} {salaryStructure : SalaryStructure} {catalog : Catalog}
  {workingDays : Option UInt32} {kind : Component.Kind} {components : List Component}
  {full full' due due' : Component → Decimal} {breakdown again : Breakdown}

/-- The components of a structure have one full value each, whoever is paid under it for the same
monthly cost. -/
theorem Assessed.with_full (assessed : Assessed employee salaryStructure catalog full due)
    (again : Assessed other salaryStructure catalog full' due')
    (same : other.monthlyCtc = employee.monthlyCtc) :
    Assessed other salaryStructure catalog full due' where
  full_eq := same ▸ assessed.full_eq
  due_eq := fun component listed => by
    have evaluated := again.full_eq component listed
    rw [same, assessed.full_eq component listed] at evaluated
    rw [Except.ok.inj evaluated]
    exact again.due_eq component listed

theorem dueLines_atMost
    (each : ∀ component ∈ components, component.kind = kind →
      (due component).AtMost (due' component)) :
    List.Forall₂ LineItem.AtMost (dueLines kind components due)
      (dueLines kind components due') := by
  rw [dueLines, dueLines, List.forall₂_map_left_iff, List.forall₂_map_right_iff,
    List.forall₂_same]
  intro component listed
  obtain ⟨listed, ofKind⟩ := List.mem_filter.mp listed
  exact ⟨rfl, (each component listed (by simpa using ofKind)).roundToCents⟩

theorem dueLines_congr
    (each : ∀ component ∈ components, component.kind = kind → due' component = due component) :
    dueLines kind components due' = dueLines kind components due := by
  apply List.map_congr_left
  intro component listed
  obtain ⟨listed, ofKind⟩ := List.mem_filter.mp listed
  rw [each component listed (by simpa using ofKind)]

theorem amounts_atMost {items items' : List LineItem}
    (each : List.Forall₂ LineItem.AtMost items items') :
    List.Forall₂ Decimal.AtMost (items.map (·.amount)) (items'.map (·.amount)) :=
  List.rel_map (fun _ _ less => less.amount) each

/-! ## Totals -/

theorem Itemizes.totalEarnings_atMost
    (itemizes : Itemizes employee salaryStructure catalog workingDays due breakdown)
    (itemizes' : Itemizes other salaryStructure catalog workingDays due' again)
    (lines : List.Forall₂ LineItem.AtMost breakdown.earnings again.earnings) :
    breakdown.totalEarnings.AtMost again.totalEarnings := by
  obtain ⟨sum, summed, total⟩ := itemizes.totalEarnings_eq
  obtain ⟨sum', summed', total'⟩ := itemizes'.totalEarnings_eq
  rw [total, total']
  exact (Decimal.AtMost.runningSum? (amounts_atMost lines) summed summed').roundToCents

theorem Itemizes.totalDeductions_congr
    (itemizes : Itemizes employee salaryStructure catalog workingDays due breakdown)
    (itemizes' : Itemizes other salaryStructure catalog workingDays due' again)
    (lines : again.deductions = breakdown.deductions) :
    again.totalDeductions = breakdown.totalDeductions := by
  obtain ⟨sum, summed, total⟩ := itemizes.totalDeductions_eq
  obtain ⟨sum', summed', total'⟩ := itemizes'.totalDeductions_eq
  rw [lines, summed] at summed'
  rw [total, total', Option.some.inj summed']

end Breakdown

end Payslip
