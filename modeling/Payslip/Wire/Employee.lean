/-
# Employees and structures as documents
-/

import Payslip.Employee
import Payslip.Wire.Basic

namespace Payslip

open Payslip.Reading

namespace Employee

/-- The fields of an employee. -/
def record : RecordReader Employee :=
  Employee.mk
    <$> .required "id" Reader.text
    <*> .required "name" Reader.text
    <*> .required "ctc" Reader.amount
    <*> .defaulted "lop_count" Reader.word 0
    <*> .defaulted "salary_structure_id" Reader.text.optional none

/-- Reads an employee. -/
def read : Reader Employee := record.read

/-- The employee as a document. -/
def document (employee : Employee) : Document :=
  .ofFields
    [("id", .ofText employee.id),
      ("name", .ofText employee.name),
      ("ctc", employee.ctc.document),
      ("lop_count", .ofInt employee.unpaidDays.toNat),
      ("salary_structure_id", optionalText employee.structureId)]

end Employee

namespace SalaryStructure

/-- The fields of a structure. -/
def record : RecordReader SalaryStructure :=
  SalaryStructure.mk
    <$> .required "id" Reader.text
    <*> .required "name" Reader.text
    <*> .defaulted "component_ids" Reader.text.list []

/-- Reads a structure. -/
def read : Reader SalaryStructure := record.read

/-- The structure as a document. -/
def document (salaryStructure : SalaryStructure) : Document :=
  .ofFields
    [("id", .ofText salaryStructure.id),
      ("name", .ofText salaryStructure.name),
      ("component_ids", .ofList (salaryStructure.componentIds.map .ofText))]

end SalaryStructure

end Payslip
