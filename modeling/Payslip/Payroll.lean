/-
# Paying many employees at once

A payroll pays every employee whose salary structure exists, in the given order, each in a run
of its own. It needs at least one employee who has a structure assigned, whether or not that
structure exists.
-/

import Payslip.Breakdown

namespace Payslip

/-- The breakdowns of a month and what they add up to. -/
structure Payroll where
  workingDays : UInt32
  breakdowns : List Breakdown
  total : Decimal
  deriving DecidableEq, Repr

namespace Payroll

/-- The number of employees who are paid. -/
def employeeCount (payroll : Payroll) : Nat := payroll.breakdowns.length

/-- The first breakdown of an employee. -/
def breakdown? (payroll : Payroll) (employeeId : String) : Option Breakdown :=
  payroll.breakdowns.find? (·.employeeId == employeeId)

/-- The structure that an employee is paid under, if one is assigned and exists. -/
def structureFor? (structures : List SalaryStructure) (employee : Employee) :
    Option SalaryStructure := do
  let id ← employee.structureId
  structures.find? (·.id == id)

/-- Pays every employee whose structure exists and leaves the others out. Fails with the first
breakdown that fails. -/
def calculate (employees : List Employee) (structures : List SalaryStructure)
    (catalog : Catalog) (workingDays : Option UInt32) : Except PayError Payroll := do
  let workingDays := workingDays.getD defaultWorkingDays
  if employees.all (·.structureId.isNone) then throw .noEligibleEmployees
  let payable := employees.filterMap fun employee =>
    (structureFor? structures employee).map (employee, ·)
  let breakdowns ← payable.mapM fun (employee, salaryStructure) =>
    Breakdown.calculate employee salaryStructure catalog (some workingDays)
  let total ← sumToCents (breakdowns.map (·.netPay))
  return { workingDays, breakdowns, total }

end Payroll

end Payslip
