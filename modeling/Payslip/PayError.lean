/-
# What can go wrong

Most odd inputs have an agreed value: a dangling reference, a division by zero, a malformed
formula. What is left is collected here by cause: configurations that do not load, look-ups that
find nothing, formulas and catalogs that a strict check refuses, circular references, and
amounts out of range. Each cause has its wording in one place.
-/

import Payslip.Formula.Term
import Payslip.Reading.Fault

namespace Payslip

/-- Why a configuration file is refused. -/
inductive ConfigurationFault
  /-- An id that an earlier entry of the file has. -/
  | duplicateId (id : String)
  | unreadable (error : Reading.ReadError)
  /-- Any other reason, in words. -/
  | stated (reason : String)
  deriving DecidableEq, Repr

/-- The wording of a configuration fault. -/
def ConfigurationFault.message : ConfigurationFault → String
  | .duplicateId id => "duplicate id '" ++ id ++ "'"
  | .unreadable error => if error.fault = .malformed then "other" else error.message
  | .stated reason => reason

/-- Why a strict check refuses a formula. Terms are counted from zero. -/
inductive FormulaFault
  | leadingOperator
  | trailingOperator
  /-- The term is an operator and so is the one before it. -/
  | adjacentOperators (index : Nat)
  /-- The term is an operand and so is the one before it. -/
  | missingOperator (index : Nat)
  | selfReference
  /-- Any other reason, in words. -/
  | stated (reason : String)
  deriving DecidableEq, Repr

/-- The wording of a formula fault. -/
def FormulaFault.message : FormulaFault → String
  | .leadingOperator => "formula cannot start with an operator"
  | .trailingOperator => "formula cannot end with an operator"
  | .adjacentOperators index => "consecutive operators at term " ++ toString index
  | .missingOperator index => "missing operator before term " ++ toString index
  | .selfReference => "formula cannot reference its own component"
  | .stated reason => reason

/-- The step of a calculation whose result is out of range. -/
inductive CalculationFault
  | percentage (percent base : Decimal)
  | operation (op : Operator) (left right : Decimal)
  | proration (amount : Decimal) (payableDays : Int)
  | sum (amount total : Decimal)
  | netPay (earnings deductions : Decimal)
  /-- Any other reason, in words. -/
  | stated (reason : String)
  deriving DecidableEq, Repr

/-- The wording of a calculation fault. -/
def CalculationFault.message : CalculationFault → String
  | .percentage percent base => percent.render ++ "% of " ++ base.render ++ " overflows"
  | .operation op left right =>
    left.render ++ " " ++ op.symbol ++ " " ++ right.render ++ " overflows"
  | .proration amount payableDays =>
    amount.render ++ " prorated over " ++ toString payableDays ++ " payable days overflows"
  | .sum amount total =>
    "total overflows adding " ++ amount.render ++ " to " ++ total.render
  | .netPay earnings deductions =>
    earnings.render ++ " - " ++ deductions.render ++ " overflows"
  | .stated reason => reason

/-- Everything that can go wrong in payroll. -/
inductive PayError
  | configurationNotFound (file : String)
  | configurationRefused (file : String) (fault : ConfigurationFault)
  | componentNotFound (id : String)
  | structureNotFound (id : String)
  | structureNotAssigned (employeeId : String)
  | noEligibleEmployees
  /-- The ids along a cycle of references, the first one again at the end. -/
  | circularReference (cycle : List String)
  | invalidFormula (componentId : String) (fault : FormulaFault)
  | invalidTerm (error : TermError)
  | calculation (fault : CalculationFault)
  deriving DecidableEq, Repr

namespace PayError

/-- The ids along a cycle, joined by arrows. -/
def cycleText (cycle : List String) : String := " → ".intercalate cycle

/-- The wording of an error. -/
def message : PayError → String
  | .configurationNotFound file => "Configuration file not found: " ++ file
  | .configurationRefused file fault =>
    "Failed to parse configuration file '" ++ file ++ "': " ++ fault.message
  | .componentNotFound id => "Component not found: " ++ id
  | .structureNotFound id => "Salary structure not found: " ++ id
  | .structureNotAssigned employeeId =>
    "Employee '" ++ employeeId ++ "' has no salary structure assigned"
  | .noEligibleEmployees => "No employees with salary structures assigned"
  | .circularReference cycle => "Circular component reference: " ++ cycleText cycle
  | .invalidFormula componentId fault =>
    "Invalid formula for component '" ++ componentId ++ "': " ++ fault.message
  | .invalidTerm error => error.message
  | .calculation fault => "Calculation error: " ++ fault.message

end PayError

end Payslip
