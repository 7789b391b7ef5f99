/-
# Employees and salary structures

What a pay calculation needs to know of an employee, and the named sets of components that
employees are paid under.
-/

import Payslip.Formula.Reduction

namespace Payslip

/-- An employee. -/
structure Employee where
  id : String
  name : String
  /-- The yearly cost to company. -/
  ctc : Decimal
  /-- Days of unpaid leave in the month. -/
  unpaidDays : UInt32
  /-- The salary structure that the employee is paid under. -/
  structureId : Option String
  deriving DecidableEq, Repr

namespace Employee

/-- The monthly cost to company. -/
def monthlyCtc (employee : Employee) : Decimal := monthlyShare employee.ctc

/-- The employee took unpaid leave. -/
def hasUnpaidDays (employee : Employee) : Bool := 0 < employee.unpaidDays

end Employee

/-- A named set of components that are paid together. The order of the ids has no effect. -/
structure SalaryStructure where
  id : String
  name : String
  componentIds : List String
  deriving DecidableEq, Repr

namespace SalaryStructure

/-- The component with the given id belongs to the structure. -/
def contains (salaryStructure : SalaryStructure) (id : String) : Bool :=
  salaryStructure.componentIds.any (· == id)

end SalaryStructure

end Payslip
