/-
# The monthly breakdown of an employee's pay

A breakdown is made in two passes over the components of the employee's structure, in the order
of the catalog. The first evaluates every component in full. The second reduces earnings for
unpaid leave where they are marked for it, rounds to cents and sorts the lines into earnings and
deductions. So unpaid leave never changes what another component is computed from.
-/

import Payslip.Employee
import Payslip.Evaluation.Run

namespace Payslip

/-- A named amount. -/
structure LineItem where
  name : String
  amount : Decimal
  deriving DecidableEq, Repr

/-- The pay of one employee for a month. -/
structure Breakdown where
  employeeId : String
  employeeName : String
  structureName : String
  earnings : List LineItem
  deductions : List LineItem
  totalEarnings : Decimal
  totalDeductions : Decimal
  grossPay : Decimal
  netPay : Decimal
  unpaidDays : UInt32
  workingDays : UInt32
  payableDays : Int
  deriving DecidableEq, Repr

/-- Every month counts as so many days when pay is reduced for unpaid leave. -/
def monthDays : UInt32 := 30

/-- The working days that are reported when nobody says how many there were. -/
def defaultWorkingDays : UInt32 := 30

/-- An amount in whole cents, a half going away from zero. -/
def roundToCents (amount : Decimal) : Decimal := amount.roundTo 2

/-- The days that are paid. More unpaid days than the month has give a negative number. -/
def payableDays (unpaidDays : UInt32) : Int := (monthDays.toNat : Int) - unpaidDays.toNat

/-- A monthly amount reduced to the days that are paid. -/
def prorate (amount : Decimal) (unpaidDays : UInt32) : Except PayError Decimal :=
  let days := payableDays unpaidDays
  let scaled := do amount.mul? (← Decimal.ofInt? days)
  match scaled.bind (·.div? (Decimal.ofWord monthDays)) with
  | some prorated => .ok prorated
  | none => .error (.calculation (.proration amount days))

/-- The sum of amounts, in cents. -/
def sumToCents (amounts : List Decimal) : Except PayError Decimal := do
  let total ← amounts.foldlM (fun total amount =>
    match total.add? amount with
    | some sum => .ok sum
    | none => .error (.calculation (.sum amount total))) 0
  return roundToCents total

/-- Unpaid leave reduces this component for this employee. Deductions are never reduced. -/
def isReduced (component : Component) (employee : Employee) : Bool :=
  component.prorated && component.isEarning && employee.hasUnpaidDays

/-- The amount of a component that an employee is paid, in cents. -/
def paidAmount (employee : Employee) (component : Component) (full : Decimal) :
    Except PayError Decimal := do
  let amount ← if isReduced component employee then prorate full employee.unpaidDays else .ok full
  return roundToCents amount

/-- The lines of the components of one kind, given all components with their paid amounts. -/
def lineItems (kind : Component.Kind) (paid : List (Component × Decimal)) : List LineItem :=
  (paid.filter (·.1.kind == kind)).map fun line => ⟨line.1.name, line.2⟩

/-- The net pay: what is left of the earnings after the deductions. -/
def netPay (earnings deductions : Decimal) : Except PayError Decimal :=
  match earnings.sub? deductions with
  | some net => .ok net
  | none => .error (.calculation (.netPay earnings deductions))

namespace Breakdown

/-- The breakdown that follows from the paid amounts of the components. -/
def ofPaid (employee : Employee) (structureName : String) (workingDays : UInt32)
    (paid : List (Component × Decimal)) : Except PayError Breakdown := do
  let earnings := lineItems .earning paid
  let deductions := lineItems .deduction paid
  let totalEarnings ← sumToCents (earnings.map (·.amount))
  let totalDeductions ← sumToCents (deductions.map (·.amount))
  let net ← Payslip.netPay totalEarnings totalDeductions
  return {
    employeeId := employee.id
    employeeName := employee.name
    structureName
    earnings
    deductions
    totalEarnings
    totalDeductions
    grossPay := totalEarnings
    netPay := net
    unpaidDays := employee.unpaidDays
    workingDays
    payableDays := Payslip.payableDays employee.unpaidDays }

/-- Makes a breakdown within a run: all components of the structure are evaluated first, then
their amounts are taken from the store. -/
def evaluate (employee : Employee) (salaryStructure : SalaryStructure) (catalog : Catalog)
    (workingDays : Option UInt32) : Evaluation Breakdown := do
  let components := catalog.filter (salaryStructure.contains ·.id)
  components.forM fun component => do
    discard (Evaluation.stored catalog employee.monthlyCtc component)
  let paid ← components.mapM fun component => do
    let full ← Evaluation.fetch component.id
    let amount ← MonadExcept.ofExcept (paidAmount employee component (full.getD 0))
    return (component, amount)
  MonadExcept.ofExcept
    (ofPaid employee salaryStructure.name (workingDays.getD defaultWorkingDays) paid)

/-- Makes a breakdown in a run of its own, and gives the run for inspection. -/
def run (employee : Employee) (salaryStructure : SalaryStructure) (catalog : Catalog)
    (workingDays : Option UInt32) : Except PayError Breakdown × Run :=
  Evaluation.runFrom (evaluate employee salaryStructure catalog workingDays) (.start ∅)

/-- The breakdown of an employee's pay under a structure. -/
def calculate (employee : Employee) (salaryStructure : SalaryStructure) (catalog : Catalog)
    (workingDays : Option UInt32) : Except PayError Breakdown :=
  (run employee salaryStructure catalog workingDays).1

end Breakdown

end Payslip
