/-
# Reducing a formula in place

The two passes over the operands and the operators of a formula can be made without building new
lists. A position runs along the operators: at a multiplication or a division the two operands are
merged where the first of them stands, the operator is taken out, and the position stays where it
is, so that what follows is met next. Additions and subtractions are passed over and carried out at
the end.

In a malformed formula the position can be beyond the operands. A result then goes to their end,
wherever that is.
-/

import Payslip.Formula.Reduction

namespace Payslip.Formula

/-- Puts an amount in the place of the one at a position, or at the end if there is none. -/
def putAt (operands : List Decimal) (position : Nat) (amount : Decimal) : List Decimal :=
  if position < operands.length then operands.set position amount else operands ++ [amount]

/-- The first pass from a position on: merges the operands of every multiplication and division. -/
def mergeFrom (position : Nat) (operands : List Decimal) (operators : List Operator) :
    Except PayError (List Decimal × List Operator) :=
  match _ : operators[position]? with
  | none => .ok (operands, operators)
  | some op =>
    if op.bindsTighter then do
      let result ← op.apply (operands.getD position 0) (operands.getD (position + 1) 0)
      mergeFrom position (putAt (operands.eraseIdx (position + 1)) position result)
        (operators.eraseIdx position)
    else mergeFrom (position + 1) operands operators
termination_by operators.length - position
decreasing_by
  · have inside := (List.getElem?_eq_some_iff.mp ‹_›).1
    rw [List.length_eraseIdx_of_lt inside]
    omega
  · have inside := (List.getElem?_eq_some_iff.mp ‹_›).1
    omega

/-- The second pass: adds and subtracts what is left. An operator stands in front of the operand
with the index behind its own. -/
def total (operands : List Decimal) (operators : List Operator) : Except PayError Decimal :=
  operators.zipIdx.foldlM
    (fun total (op, index) => op.apply total (operands.getD (index + 1) 0)) (operands.getD 0 0)

/-- The value of operands and operators, reduced in place. -/
def reduceInPlace (operands : List Decimal) (operators : List Operator) :
    Except PayError Decimal := do
  let (operands, operators) ← mergeFrom 0 operands operators
  total operands operators

end Payslip.Formula
