/-
# Pay depends on numbers

Proration, rounding to cents and the sums of a breakdown look at amounts as numbers only.
What is paid of alike components with alike values is alike, and so are the breakdowns
that are made of it.
-/

import Payslip.Proofs.Formula.Numbers

namespace Payslip

open Outcome (Alike)

variable {amount amount' : Decimal}

/-- A number in whole cents, a half going away from zero. -/
def wholeCents (v : ℚ) : ℚ := nearestAway (v * 100) / 100

theorem wholeCents_neg (v : ℚ) : wholeCents (-v) = -wholeCents v := by
  rw [wholeCents, wholeCents, neg_mul, nearestAway_neg, Int.cast_neg, neg_div]

theorem toRat_roundToCents (amount : Decimal) :
    (roundToCents amount).toRat = wholeCents amount.toRat := by
  rw [roundToCents, Decimal.toRat_roundTo, wholeCents]
  rfl

theorem roundToCents_alike (alike : amount.Alike amount') :
    (roundToCents amount).Alike (roundToCents amount') := by
  rw [Decimal.Alike, toRat_roundToCents, toRat_roundToCents, alike]

theorem prorate_alike (alike : amount.Alike amount') (unpaidDays : UInt32) :
    Alike Decimal.Alike (prorate amount unpaidDays) (prorate amount' unpaidDays) := by
  refine .ofOption _ _ _ _ ?_
  cases Decimal.ofInt? (payableDays unpaidDays) with
  | none => rfl
  | some days => exact alike.mul?_div? (.refl days) (.ofWord monthDays)

theorem paidAmount_alike (employee : Employee) {component component' : Component}
    (components : component.Alike component') (alike : amount.Alike amount') :
    Alike Decimal.Alike (paidAmount employee component amount)
      (paidAmount employee component' amount') := by
  have reduced : isReduced component' employee = isReduced component employee := by
    rw [isReduced, isReduced, Component.isEarning, Component.isEarning, components.prorated_eq,
      components.kind_eq]
  rw [paidAmount, paidAmount, reduced]
  split
  · exact (prorate_alike alike employee.unpaidDays).bind fun _ _ same =>
      .ok (roundToCents_alike same)
  · exact .ok (roundToCents_alike alike)

theorem sumToCents_alike {amounts amounts' : List Decimal}
    (each : List.Forall₂ Decimal.Alike amounts amounts') :
    Alike Decimal.Alike (sumToCents amounts) (sumToCents amounts') := by
  have added (total total' amount amount' : Decimal) (totals : total.Alike total')
      (amounts : amount.Alike amount') :=
    Alike.ofOption (total.add? amount) (total'.add? amount') (.sum amount total)
      (.sum amount' total') (Operator.add.toRat_result? totals amounts)
  exact (Alike.foldlM each added (.refl 0)).bind fun _ _ same => .ok (roundToCents_alike same)

theorem netPay_alike {earnings earnings' deductions deductions' : Decimal}
    (earned : earnings.Alike earnings') (deducted : deductions.Alike deductions') :
    Alike Decimal.Alike (netPay earnings deductions) (netPay earnings' deductions') :=
  .ofOption _ _ _ _ (Operator.subtract.toRat_result? earned deducted)

/-- A component that is paid, with what is paid of it. -/
structure PaidAlike (line again : Component × Decimal) : Prop where
  component : line.1.Alike again.1
  amount : line.2.Alike again.2

theorem lineItems_alike (kind : Component.Kind) {paid paid' : List (Component × Decimal)}
    (each : List.Forall₂ PaidAlike paid paid') :
    List.Forall₂ LineItem.Alike (lineItems kind paid) (lineItems kind paid') := by
  refine List.rel_map ?_ (List.rel_filter ?_ each)
  · intro line line' same
    exact ⟨same.component.name_eq, same.amount⟩
  · intro line line' same
    simp only [same.component.kind_eq]

theorem amounts_alike {items items' : List LineItem}
    (each : List.Forall₂ LineItem.Alike items items') :
    List.Forall₂ Decimal.Alike (items.map (·.amount)) (items'.map (·.amount)) :=
  List.rel_map (fun _ _ same => same.amount) each

theorem Breakdown.ofPaid_alike (employee : Employee) (structureName : String)
    (workingDays : UInt32) {paid paid' : List (Component × Decimal)}
    (each : List.Forall₂ PaidAlike paid paid') :
    Outcome.Alike Breakdown.Alike (ofPaid employee structureName workingDays paid)
      (ofPaid employee structureName workingDays paid') := by
  have earnings := lineItems_alike .earning each
  have deductions := lineItems_alike .deduction each
  rw [ofPaid, ofPaid]
  apply (sumToCents_alike (amounts_alike earnings)).bind
  intro earned earned' sameEarned
  apply (sumToCents_alike (amounts_alike deductions)).bind
  intro deducted deducted' sameDeducted
  apply (netPay_alike sameEarned sameDeducted).bind
  intro net net' sameNet
  exact .ok ⟨rfl, rfl, rfl, earnings, deductions, sameEarned, sameDeducted, sameEarned, sameNet,
    rfl, rfl, rfl⟩

end Payslip
