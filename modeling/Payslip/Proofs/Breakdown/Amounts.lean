/-
# The amounts of a breakdown

What rounding, prorating and summing make of amounts: every line and every total has
at most two digits after the point, a sum is the running sum of its parts rounded
once, and nothing fails other than by going out of range.
-/

import Payslip.Breakdown
import Payslip.Proofs.Formula.Overflow

namespace Payslip

namespace Decimal

theorem scale_roundTo_le (places : Nat) (x : Decimal) : (x.roundTo places).scale ≤ places := by
  rw [roundTo]
  split
  · assumption
  · dsimp only
    split
    · exact Nat.le_refl places
    · exact Nat.le_refl places

@[simp]
theorem scale_negate (x : Decimal) : x.negate.scale = x.scale := by
  rw [negate]
  split <;> rfl

/-- A number that is made to fit loses digits after the point and gains none. -/
theorem scale_le_of_fit? {negative : Bool} {total scale : Nat} {x : Decimal}
    (fitted : fit? negative total scale = some x) : x.scale ≤ scale := by
  unfold fit? at fitted
  split at fitted
  · cases fitted
  · next dropped _ =>
    dsimp only at fitted
    split at fitted
    · have same := (build?_eq_some_iff.mp fitted).2.2
      omega
    · split at fitted
      · cases fitted
      · have same := (build?_eq_some_iff.mp fitted).2.2
        omega

theorem scale_le_of_add? {x y sum : Decimal} {places : Nat} (left : x.scale ≤ places)
    (right : y.scale ≤ places) (added : x.add? y = some sum) : sum.scale ≤ places := by
  rw [add?] at added
  split at added
  · cases added
    exact right
  · split at added
    · cases added
      exact left
    · exact Nat.le_trans (scale_le_of_fit? added) (Nat.max_le.mpr ⟨left, right⟩)

theorem scale_le_of_sub? {x y difference : Decimal} {places : Nat} (left : x.scale ≤ places)
    (right : y.scale ≤ places) (subtracted : x.sub? y = some difference) :
    difference.scale ≤ places :=
  scale_le_of_add? left (by rwa [scale_negate]) subtracted

end Decimal

theorem scale_roundToCents_le (amount : Decimal) : (roundToCents amount).scale ≤ 2 :=
  Decimal.scale_roundTo_le 2 amount

/-! ## Sums -/

/-- The sum of amounts, added one after the other, if no partial sum is out of range. -/
def runningSum? (amounts : List Decimal) : Option Decimal := amounts.foldlM Decimal.add? 0

private theorem foldlM_add_eq_ok_iff (amounts : List Decimal) (total sum : Decimal) :
    (amounts.foldlM (fun total amount =>
      match total.add? amount with
      | some sum => Except.ok sum
      | none => .error (PayError.calculation (.sum amount total))) total) = .ok sum ↔
      amounts.foldlM Decimal.add? total = some sum := by
  induction amounts generalizing total with
  | nil => simp [pure, Except.pure]
  | cons amount rest ih =>
      rw [List.foldlM_cons, List.foldlM_cons]
      cases added : total.add? amount with
      | some next => simpa using ih next
      | none => simp

/-- A total is the running sum, rounded once. -/
theorem sumToCents_eq_ok_iff {amounts : List Decimal} {total : Decimal} :
    sumToCents amounts = .ok total ↔
      ∃ sum, runningSum? amounts = some sum ∧ total = roundToCents sum := by
  rw [sumToCents, runningSum?, Outcome.bind_eq_ok_iff]
  constructor
  · rintro ⟨sum, added, rounded⟩
    cases rounded
    exact ⟨sum, (foldlM_add_eq_ok_iff amounts 0 sum).mp added, rfl⟩
  · rintro ⟨sum, added, rfl⟩
    exact ⟨sum, (foldlM_add_eq_ok_iff amounts 0 sum).mpr added, rfl⟩

theorem scale_sumToCents_le {amounts : List Decimal} {total : Decimal}
    (summed : sumToCents amounts = .ok total) : total.scale ≤ 2 := by
  obtain ⟨sum, -, rfl⟩ := sumToCents_eq_ok_iff.mp summed
  exact scale_roundToCents_le sum

theorem netPay_eq_ok_iff {earnings deductions net : Decimal} :
    netPay earnings deductions = .ok net ↔ earnings.sub? deductions = some net := by
  rw [netPay]
  split
  · next difference subtracted => simp [subtracted]
  · next subtracted => simp [subtracted]

/-! ## Failures -/

theorem prorate_failsInCalculation (amount : Decimal) (unpaidDays : UInt32) :
    FailsInCalculation (prorate amount unpaidDays) := by
  unfold prorate
  dsimp only
  split
  · exact .ok _
  · exact .fault _

theorem sumToCents_failsInCalculation (amounts : List Decimal) :
    FailsInCalculation (sumToCents amounts) := by
  refine .bind (.foldlM amounts 0 fun total amount => ?_) fun total => .ok _
  split
  · exact .ok _
  · exact .fault _

theorem netPay_failsInCalculation (earnings deductions : Decimal) :
    FailsInCalculation (netPay earnings deductions) := by
  rw [netPay]
  split
  · exact .ok _
  · exact .fault _

/-- A sum that is out of range at some part is a calculation that fails. -/
theorem exists_fault_of_runningSum?_eq_none {amounts : List Decimal}
    (beyond : runningSum? amounts = none) :
    ∃ fault, sumToCents amounts = .error (.calculation fault) := by
  cases summed : sumToCents amounts with
  | ok total =>
      obtain ⟨sum, reached, -⟩ := sumToCents_eq_ok_iff.mp summed
      rw [beyond] at reached
      cases reached
  | error error =>
      obtain ⟨fault, rfl⟩ := sumToCents_failsInCalculation amounts error summed
      exact ⟨fault, rfl⟩

theorem paidAmount_failsInCalculation (employee : Employee) (component : Component)
    (full : Decimal) : FailsInCalculation (paidAmount employee component full) := by
  rw [paidAmount]
  split
  · exact (prorate_failsInCalculation full employee.unpaidDays).bind fun amount => .ok _
  · exact .ok _

theorem Breakdown.ofPaid_failsInCalculation (employee : Employee) (structureName : String)
    (workingDays : UInt32) (paid : List (Component × Decimal)) :
    FailsInCalculation (Breakdown.ofPaid employee structureName workingDays paid) := by
  rw [Breakdown.ofPaid]
  apply (sumToCents_failsInCalculation _).bind
  intro earned
  apply (sumToCents_failsInCalculation _).bind
  intro deducted
  exact (netPay_failsInCalculation earned deducted).bind fun net => .ok _

end Payslip
