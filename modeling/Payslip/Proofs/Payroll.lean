/-
# How a payroll comes about

The steps of a payroll one by one: it needs somebody with a structure, makes the
breakdowns of those whose structure exists, and adds up their net pay.
-/

import Payslip.Payroll
import Payslip.Proofs.Breakdown.Amounts

namespace Payslip

instance : Inhabited Breakdown := ⟨⟨"", "", "", [], [], 0, 0, 0, 0, 0, 0, 0⟩⟩

namespace Payroll

/-- The employees who are paid, each with the structure that counts. -/
def payable (employees : List Employee) (structures : List SalaryStructure) :
    List (Employee × SalaryStructure) :=
  employees.filterMap fun employee => (structureFor? structures employee).map (employee, ·)

/-- The breakdowns of those who are paid. -/
def payAll (employees : List Employee) (structures : List SalaryStructure)
    (catalog : Catalog) (workingDays : UInt32) : Except PayError (List Breakdown) :=
  (payable employees structures).mapM fun pay =>
    Breakdown.calculate pay.1 pay.2 catalog (some workingDays)

/-- The payroll of breakdowns that have been made. -/
def ofBreakdowns (workingDays : UInt32) (breakdowns : List Breakdown) : Except PayError Payroll :=
  (sumToCents (breakdowns.map (·.netPay))).map fun total => { workingDays, breakdowns, total }

variable {employees : List Employee} {structures : List SalaryStructure} {catalog : Catalog}
  {workingDays : Option UInt32}

theorem payAll_cons_of_eq_none {employee : Employee} {rest : List Employee} {workingDays : UInt32}
    (unpaid : structureFor? structures employee = none) :
    payAll (employee :: rest) structures catalog workingDays =
      payAll rest structures catalog workingDays := by
  unfold payAll payable
  rw [List.filterMap_cons_none (by simp [unpaid])]

theorem payAll_cons_of_eq_some {employee : Employee} {rest : List Employee}
    {workingDays : UInt32} {salaryStructure : SalaryStructure}
    (paid : structureFor? structures employee = some salaryStructure) :
    payAll (employee :: rest) structures catalog workingDays = do
      let breakdown ← Breakdown.calculate employee salaryStructure catalog (some workingDays)
      let others ← payAll rest structures catalog workingDays
      return breakdown :: others := by
  unfold payAll payable
  rw [List.filterMap_cons_some (by rw [paid]; rfl), List.mapM_cons]

theorem calculate_of_all_isNone (unassigned : employees.all (·.structureId.isNone) = true) :
    calculate employees structures catalog workingDays = .error .noEligibleEmployees := by
  rw [calculate, if_pos unassigned]
  rfl

theorem calculate_of_not_all_isNone (assigned : ¬ employees.all (·.structureId.isNone) = true) :
    calculate employees structures catalog workingDays =
      payAll employees structures catalog (workingDays.getD defaultWorkingDays) >>=
        ofBreakdowns (workingDays.getD defaultWorkingDays) := by
  rw [calculate, if_neg assigned]
  rfl

theorem isNone_structureId_of_structureFor? {employee : Employee}
    {salaryStructure : SalaryStructure}
    (found : structureFor? structures employee = some salaryStructure) :
    employee.structureId.isNone = false := by
  rw [structureFor?] at found
  obtain ⟨id, assigned, -⟩ := Option.bind_eq_some_iff.mp found
  rw [assigned]
  rfl

theorem ofBreakdowns_failsInCalculation (workingDays : UInt32) (made : List Breakdown) :
    FailsInCalculation (ofBreakdowns workingDays made) :=
  (sumToCents_failsInCalculation _).map _

/-- A payroll is made exactly when somebody has a structure, everybody whose structure exists has a
breakdown, and the net pays have a total. -/
theorem calculate_eq_ok_iff {payroll : Payroll} :
    calculate employees structures catalog workingDays = .ok payroll ↔
      employees.all (·.structureId.isNone) = false ∧
      payroll.workingDays = workingDays.getD defaultWorkingDays ∧
      (∃ made : Employee × SalaryStructure → Breakdown,
        payroll.breakdowns = (payable employees structures).map made ∧
        ∀ pay ∈ payable employees structures,
          Breakdown.calculate pay.1 pay.2 catalog (some payroll.workingDays) = .ok (made pay)) ∧
      sumToCents (payroll.breakdowns.map (·.netPay)) = .ok payroll.total := by
  by_cases unassigned : employees.all (·.structureId.isNone) = true
  · simp [calculate_of_all_isNone unassigned, unassigned]
  · rw [calculate_of_not_all_isNone unassigned, Outcome.bind_eq_ok_iff]
    constructor
    · rintro ⟨breakdowns, paid, totalled⟩
      obtain ⟨total, summed, rfl⟩ := Outcome.map_eq_ok_iff.mp totalled
      obtain ⟨made, each⟩ :=
        Outcome.exists_function_of_forall (Outcome.exists_ok_of_mapM_eq_ok paid)
      cases paid.symm.trans (Outcome.mapM_eq_ok_of_forall each)
      exact ⟨eq_false_of_ne_true unassigned, rfl, ⟨made, rfl, each⟩, summed⟩
    · rintro ⟨-, days, ⟨made, breakdowns_eq, each⟩, summed⟩
      rw [days] at each
      refine ⟨payroll.breakdowns, ?_, ?_⟩
      · rw [breakdowns_eq]
        exact Outcome.mapM_eq_ok_of_forall each
      · exact Outcome.map_eq_ok_iff.mpr ⟨payroll.total, summed, by rw [← days]⟩

end Payroll

end Payslip
