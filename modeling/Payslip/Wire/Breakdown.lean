/-
# Breakdowns and payrolls as documents

A payroll that is kept has an id and the time at which it was made.
-/

import Payslip.Payroll
import Payslip.Timestamp
import Payslip.Uuid
import Payslip.Wire.Basic

namespace Payslip

open Payslip.Reading

namespace LineItem

/-- The fields of a line. -/
def record : RecordReader LineItem :=
  LineItem.mk <$> .required "name" Reader.text <*> .required "amount" Reader.amount

/-- Reads a line. -/
def read : Reader LineItem := record.read

/-- The line as a document. -/
def document (item : LineItem) : Document :=
  .ofFields [("name", .ofText item.name), ("amount", item.amount.document)]

end LineItem

namespace Breakdown

/-- The fields of a breakdown. -/
def record : RecordReader Breakdown :=
  Breakdown.mk
    <$> .required "employee_id" Reader.text
    <*> .required "employee_name" Reader.text
    <*> .required "structure_name" Reader.text
    <*> .required "earnings" LineItem.read.list
    <*> .required "deductions" LineItem.read.list
    <*> .required "total_earnings" Reader.amount
    <*> .required "total_deductions" Reader.amount
    <*> .required "gross_pay" Reader.amount
    <*> .required "net_pay" Reader.amount
    <*> .required "lop_days" Reader.word
    <*> .required "working_days" Reader.word
    <*> .required "payable_days" Reader.signed

/-- Reads a breakdown. -/
def read : Reader Breakdown := record.read

/-- The breakdown as a document. -/
def document (breakdown : Breakdown) : Document :=
  .ofFields
    [("employee_id", .ofText breakdown.employeeId),
      ("employee_name", .ofText breakdown.employeeName),
      ("structure_name", .ofText breakdown.structureName),
      ("earnings", .ofList (breakdown.earnings.map LineItem.document)),
      ("deductions", .ofList (breakdown.deductions.map LineItem.document)),
      ("total_earnings", breakdown.totalEarnings.document),
      ("total_deductions", breakdown.totalDeductions.document),
      ("gross_pay", breakdown.grossPay.document),
      ("net_pay", breakdown.netPay.document),
      ("lop_days", .ofInt breakdown.unpaidDays.toNat),
      ("working_days", .ofInt breakdown.workingDays.toNat),
      ("payable_days", .ofInt breakdown.payableDays)]

end Breakdown

/-- A payroll as it is kept. -/
structure PayrollRecord where
  id : Uuid
  date : Timestamp
  payroll : Payroll
  deriving DecidableEq, Repr

/-- The payroll as a document, with an id and a time in their written forms. -/
def Payroll.document (payroll : Payroll) (id date : String) : Document :=
  .ofFields
    [("id", .ofText id),
      ("date", .ofText date),
      ("working_days", .ofInt payroll.workingDays.toNat),
      ("breakdowns", .ofList (payroll.breakdowns.map Breakdown.document)),
      ("total_payroll", payroll.total.document)]

namespace PayrollRecord

/-- The fields of a payroll. -/
def record : RecordReader PayrollRecord :=
  (fun id date workingDays breakdowns total =>
      ({ id, date, payroll := { workingDays, breakdowns, total } } : PayrollRecord))
    <$> .required "id" (Reader.special Uuid.parse?)
    <*> .required "date" (Reader.special Timestamp.parse?)
    <*> .required "working_days" Reader.word
    <*> .required "breakdowns" Breakdown.read.list
    <*> .required "total_payroll" Reader.amount

/-- Reads a payroll. -/
def read : Reader PayrollRecord := record.read

/-- The payroll as a document. -/
def document (kept : PayrollRecord) : Document :=
  kept.payroll.document kept.id.render kept.date.render

end PayrollRecord

end Payslip
