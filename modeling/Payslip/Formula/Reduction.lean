/-
# Reducing a formula to its value

The operands and the operators of a formula are reduced in two passes: multiplications and
divisions are folded into their neighbours from left to right, then additions and subtractions
from left to right. A formula need not be well formed: an operand that is missing counts as
zero, one that no operator reaches is ignored.
-/

import Payslip.Decimal.Division
import Payslip.PayError

namespace Payslip

/-- The monthly share of a yearly amount. -/
def monthlyShare (yearly : Decimal) : Decimal := (yearly.div? (Decimal.ofWord 12)).getD 0

/-- So many percent of an amount. -/
def percentOf (base percent : Decimal) : Except PayError Decimal :=
  match (base.mul? percent).bind (·.div? (Decimal.ofWord 100)) with
  | some amount => .ok amount
  | none => .error (.calculation (.percentage percent base))

/-- The result of an operator, if it is in range. Dividing by zero gives zero. -/
def Operator.result? (op : Operator) (left right : Decimal) : Option Decimal :=
  match op with
  | .add => left.add? right
  | .subtract => left.sub? right
  | .multiply => left.mul? right
  | .divide => if right.isZero then some 0 else left.div? right

/-- The result of an operator; out of range it is an error. -/
def Operator.apply (op : Operator) (left right : Decimal) : Except PayError Decimal :=
  match op.result? left right with
  | some result => .ok result
  | none => .error (.calculation (.operation op left right))

namespace Formula

/-- The first pass: folds every multiplication and division into its neighbours. What is left are
the operands of the additions and subtractions, one for each of them behind the first. -/
def foldProducts : List Decimal → List Operator →
    Except PayError (List Decimal × List Operator)
  | operands, [] => .ok (operands, [])
  | operands, op :: rest =>
    if op.bindsTighter then do
      let product ← op.apply (operands.headD 0) (operands.tail.headD 0)
      foldProducts (product :: operands.tail.tail) rest
    else do
      let (summands, ops) ← foldProducts operands.tail rest
      return (operands.headD 0 :: summands, op :: ops)

/-- The second pass: folds the operands that are left into a total. -/
def foldSums (total : Decimal) : List Decimal → List Operator → Except PayError Decimal
  | _, [] => .ok total
  | operands, op :: rest => do
    foldSums (← op.apply total (operands.headD 0)) operands.tail rest

/-- The value of operands and operators. -/
def reduce (operands : List Decimal) (operators : List Operator) : Except PayError Decimal := do
  let (operands, operators) ← foldProducts operands operators
  foldSums (operands.headD 0) operands.tail operators

end Formula

end Payslip
