/-
# Employees in requests

Whoever sends an employee to be paid has to say who it is and may not give a negative cost to
company. A structure id without a name in it means that none is assigned.
-/

import Payslip.Text.Blank
import Payslip.Wire.Employee

namespace Payslip.Service

open Payslip.Reading

/-- Why an employee is not accepted. -/
inductive AdmissionFault
  | blankId
  | blankName (id : String)
  | negativeCtc (id : String) (ctc : Decimal)
  deriving DecidableEq, Repr

/-- The wording of an admission fault. -/
def AdmissionFault.message : AdmissionFault → String
  | .blankId => "Employee id must not be blank"
  | .blankName id => "Employee '" ++ id ++ "' must have a name"
  | .negativeCtc id ctc => "Employee '" ++ id ++ "' has a negative ctc: " ++ ctc.render

/-- Accepts an employee as a request gives it. -/
def accept (employee : Employee) : Except AdmissionFault Employee :=
  if Text.isBlank employee.id then .error .blankId
  else if Text.isBlank employee.name then .error (.blankName employee.id)
  else if employee.ctc.isNegative then .error (.negativeCtc employee.id employee.ctc)
  else .ok { employee with structureId := employee.structureId.filter (!Text.isBlank ·) }

/-- A request for one breakdown. -/
structure BreakdownRequest where
  employee : Employee
  workingDays : Option UInt32
  deriving DecidableEq, Repr

namespace BreakdownRequest

/-- The fields of a request for one breakdown. -/
def record : RecordReader BreakdownRequest :=
  BreakdownRequest.mk
    <$> .required "employee" Employee.read
    <*> .defaulted "working_days" Reader.word.optional none

/-- Reads a request for one breakdown. -/
def read : Reader BreakdownRequest := record.read

/-- The request as a document. -/
def document (request : BreakdownRequest) : Document :=
  .ofFields
    [("employee", request.employee.document),
      ("working_days", optionalWord request.workingDays)]

end BreakdownRequest

/-- A request for a payroll. -/
structure PayrollRequest where
  employees : List Employee
  workingDays : Option UInt32
  deriving DecidableEq, Repr

namespace PayrollRequest

/-- The fields of a request for a payroll. -/
def record : RecordReader PayrollRequest :=
  PayrollRequest.mk
    <$> .required "employees" Employee.read.list
    <*> .defaulted "working_days" Reader.word.optional none

/-- Reads a request for a payroll. -/
def read : Reader PayrollRequest := record.read

/-- The request as a document. -/
def document (request : PayrollRequest) : Document :=
  .ofFields
    [("employees", .ofList (request.employees.map Employee.document)),
      ("working_days", optionalWord request.workingDays)]

end PayrollRequest

end Payslip.Service
