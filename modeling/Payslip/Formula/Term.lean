/-
# Terms of a formula

A formula is a flat sequence of operands and operators. An operand is the value of a reference
or a percentage of it.
-/

import Payslip.Decimal.Text
import Payslip.Reference

namespace Payslip

/-- The four operators of a formula. -/
inductive Operator
  | add
  | subtract
  | multiply
  | divide
  deriving DecidableEq, Repr, Inhabited

namespace Operator

/-- The sign by which an operator is written. -/
def symbol : Operator → String
  | .add => "+"
  | .subtract => "-"
  | .multiply => "*"
  | .divide => "/"

/-- The operator with the given sign. -/
def ofSymbol? : String → Option Operator
  | "+" => some .add
  | "-" => some .subtract
  | "*" => some .multiply
  | "/" => some .divide
  | _ => none

/-- Multiplication and division are carried out before addition and subtraction. -/
def bindsTighter : Operator → Bool
  | .multiply | .divide => true
  | .add | .subtract => false

@[simp] theorem ofSymbol?_symbol (operator : Operator) :
    ofSymbol? operator.symbol = some operator := by
  cases operator <;> rfl

end Operator

/-- One term of a formula. -/
inductive Term
  | operator (op : Operator)
  | value (reference : Reference)
  | percentage (percent : Decimal) (reference : Reference)
  deriving DecidableEq, Repr

namespace Term

/-- The term is an operator, not an operand. -/
def isOperator : Term → Bool
  | .operator _ => true
  | _ => false

/-- What an operand refers to. -/
def reference? : Term → Option Reference
  | .operator _ => none
  | .value reference => some reference
  | .percentage _ reference => some reference

/-- The id of the component that an operand refers to. -/
def componentId? (term : Term) : Option String := term.reference?.bind Reference.componentId?

end Term

end Payslip
