/-
# A payroll does not depend on order

The employees of a payroll may be listed in any order, and so may the components of the
catalog if their ids are distinct: who is paid what stays the same, and so does the total.
Two things have to be small enough to be added exactly, since otherwise rounding would depend
on the order: the lines of every breakdown, and the net pays of the payroll.
-/

import Payslip.Proofs.Breakdown.Order
import Payslip.Proofs.Payroll

namespace Payslip.Payroll

open Payslip.Breakdown (shuffledCatalog)

variable {employees others : List Employee} {structures : List SalaryStructure}
  {catalog shuffled : Catalog} {workingDays : Option UInt32} {payroll : Payroll}

theorem payable_perm (same : employees.Perm others) (structures : List SalaryStructure) :
    (payable employees structures).Perm (payable others structures) :=
  same.filterMap _

/-- The same pay, with the employees and the components in another order. -/
structure Reordered (employees others : List Employee) (structures : List SalaryStructure)
    (catalog shuffled : Catalog) (payroll again : Payroll) : Prop where
  workingDays_eq : again.workingDays = payroll.workingDays
  paid : (payable employees structures).Perm (payable others structures)
  breakdowns : ∃ first second : Employee × SalaryStructure → Breakdown,
    payroll.breakdowns = (payable employees structures).map first ∧
      again.breakdowns = (payable others structures).map second ∧
      ∀ pay ∈ payable employees structures,
        (first pay).Reordered pay.2 catalog shuffled (second pay)
  total : payroll.total.Alike again.total

/-- Net pays that add exactly have the same total for another order of employees, and for other
breakdowns with the same net pays. -/
theorem exists_total_of_alike {pays shuffled : List (Employee × SalaryStructure)}
    {first second : Employee × SalaryStructure → Breakdown} {total : Decimal}
    (same : pays.Perm shuffled)
    (alike : ∀ pay ∈ pays, (first pay).netPay.Alike (second pay).netPay)
    (exactly : AddExactly ((pays.map first).map (·.netPay)))
    (summed : sumToCents ((pays.map first).map (·.netPay)) = .ok total) :
    ∃ again, sumToCents ((shuffled.map second).map (·.netPay)) = .ok again ∧ total.Alike again := by
  obtain ⟨between, reached, total_eq⟩ :=
    exactly.exists_sumToCents_perm ((same.map first).map _) summed
  have each : List.Forall₂ Decimal.Alike ((shuffled.map first).map (·.netPay))
      ((shuffled.map second).map (·.netPay)) := by
    simp only [List.forall₂_map_left_iff, List.forall₂_map_right_iff, List.forall₂_same]
    exact fun pay listed => alike pay (same.mem_iff.mpr listed)
  obtain ⟨again, reached', between_eq⟩ := (sumToCents_alike each).exists_ok reached
  exact ⟨again, reached', between_eq.trans total_eq⟩

/-- A payroll whose sums are exact is the same in any order of the employees and of the catalog: it
succeeds, everybody who is paid has the same lines, and all totals are the same numbers. -/
theorem calculate_reordered (distinct : catalog.ids.Nodup)
    (components : catalog.Perm shuffled) (staff : employees.Perm others)
    (made : calculate employees structures catalog workingDays = .ok payroll)
    (smallLines : ∀ breakdown ∈ payroll.breakdowns, absoluteSum breakdown.amounts < 2 ^ 96 / 100)
    (smallPays : absoluteSum (payroll.breakdowns.map (·.netPay)) < 2 ^ 96 / 100) :
    ∃ again, calculate others structures shuffled workingDays = .ok again ∧
      payroll.Reordered employees others structures catalog shuffled again := by
  obtain ⟨assigned, days, ⟨first, breakdowns_eq, each⟩, summed⟩ := calculate_eq_ok_iff.mp made
  have paid := payable_perm staff structures
  -- Everybody has a breakdown by the other catalog too.
  have shown : ∀ pay ∈ payable employees structures, ∃ again,
      Breakdown.calculate pay.1 pay.2 shuffled (some payroll.workingDays) = .ok again ∧
        (first pay).Reordered pay.2 catalog shuffled again := by
    intro pay listed
    apply Breakdown.exists_reordered_of_calculate distinct components (each pay listed)
    apply smallLines
    rw [breakdowns_eq]
    exact List.mem_map_of_mem listed
  choose! second each' reordered using shown
  have exactly : AddExactly (payroll.breakdowns.map (·.netPay)) := by
    refine ⟨List.forall_mem_map.mpr ?_, smallPays⟩
    rw [breakdowns_eq]
    exact List.forall_mem_map.mpr fun pay listed =>
      (Breakdown.inCents_of_calculate distinct (each pay listed)).netPay
  rw [breakdowns_eq] at exactly summed
  obtain ⟨total, summed', alikeTotal⟩ :=
    exists_total_of_alike paid (fun pay listed => (reordered pay listed).netPay) exactly summed
  refine ⟨⟨payroll.workingDays, (payable others structures).map second, total⟩, ?_, ?_⟩
  · refine calculate_eq_ok_iff.mpr ⟨?_, days, ⟨second, rfl, ?_⟩, summed'⟩
    · rw [← staff.all_eq, assigned]
    · exact fun pay listed => each' pay (paid.mem_iff.mpr listed)
  · exact ⟨rfl, paid, ⟨first, second, breakdowns_eq, rfl, reordered⟩, alikeTotal⟩

/-- Two employees who are paid, one of them with unpaid days, and one whose structure is missing. -/
def mixedStaff : List Employee :=
  [⟨"E1", "Asha", .ofWord 1000000, 4, some "std"⟩, ⟨"E2", "Ravi", .ofWord 700000, 0, some "gone"⟩,
    ⟨"E3", "Meera", .ofWord 1234567, 0, some "std"⟩]

/-- The one structure that exists for them. -/
def standardOnly : List SalaryStructure := [⟨"std", "Standard", ["basic", "hra", "fund"]⟩]

theorem calculate_reordered_reversed :
    shuffledCatalog.ids.Nodup ∧ shuffledCatalog.Perm shuffledCatalog.reverse ∧
    mixedStaff.Perm mixedStaff.reverse ∧
    ∃ payroll, calculate mixedStaff standardOnly shuffledCatalog none = .ok payroll ∧
      (∀ breakdown ∈ payroll.breakdowns, absoluteSum breakdown.amounts < 2 ^ 96 / 100) ∧
      absoluteSum (payroll.breakdowns.map (·.netPay)) < 2 ^ 96 / 100 ∧
      ∃ again, calculate mixedStaff.reverse standardOnly shuffledCatalog.reverse none =
          .ok again ∧
        payroll.Reordered mixedStaff mixedStaff.reverse standardOnly shuffledCatalog
          shuffledCatalog.reverse again := by
  have distinct : shuffledCatalog.ids.Nodup := by decide
  have components := shuffledCatalog.reverse_perm.symm
  have staff := mixedStaff.reverse_perm.symm
  have small : (calculate mixedStaff standardOnly shuffledCatalog none).toOption.any
      (fun payroll =>
        decide (∀ breakdown ∈ payroll.breakdowns, absoluteSum breakdown.amounts < 2 ^ 96 / 100) &&
          decide (absoluteSum (payroll.breakdowns.map (·.netPay)) < 2 ^ 96 / 100)) = true := by
    decide +kernel
  cases made : calculate mixedStaff standardOnly shuffledCatalog none with
  | error error =>
      rw [made] at small
      cases small
  | ok payroll =>
      rw [made] at small
      obtain ⟨lines, pays⟩ := Bool.and_eq_true_iff.mp small
      have smallLines := of_decide_eq_true lines
      have smallPays := of_decide_eq_true pays
      exact ⟨distinct, components, staff, payroll, rfl, smallLines, smallPays,
        calculate_reordered distinct components staff made smallLines smallPays⟩

end Payslip.Payroll
