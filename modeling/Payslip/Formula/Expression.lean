/-
# A formula as an expression

What a formula means to somebody who reads it: operators stand between operands, multiplication
and division bind tighter than addition and subtraction, and operators that bind equally are
carried out from left to right. An expression is the tree that such a reading makes of the terms.
It gives no meaning to malformed formulas, which cannot be read.
-/

import Payslip.Decimal.Division
import Payslip.Formula.Term

namespace Payslip

/-- How tightly an operator binds. -/
def Operator.strength : Operator → Nat
  | .add | .subtract => 1
  | .multiply | .divide => 2

namespace Formula

/-- Operands and operators in turn, from an operand to an operand. -/
inductive Alternates : List Term → Prop
  | operand {term : Term} (isOperand : term.isOperator = false) : Alternates [term]
  | operation {term : Term} (isOperand : term.isOperator = false) (op : Operator)
      {rest : List Term} (behind : Alternates rest) : Alternates (term :: .operator op :: rest)

/-- An expression: an operand, or an operator between two expressions. -/
inductive Expression
  | operand (term : Term)
  | operation (op : Operator) (left right : Expression)
  deriving DecidableEq, Repr

namespace Expression

/-- The terms of an expression in the order in which they are written. There are no brackets. -/
def terms : Expression → List Term
  | operand term => [term]
  | operation op left right => left.terms ++ .operator op :: right.terms

/-- How tightly an expression holds together: as its outermost operator, or more than any. -/
def strength : Expression → Nat
  | operand _ => 3
  | operation op _ _ => op.strength

/-- The expression needs no brackets: what stands left of an operator binds at least as tightly as
the operator, and what stands right of it more tightly. -/
def Grouped : Expression → Prop
  | operand term => term.isOperator = false
  | operation op left right =>
    left.Grouped ∧ right.Grouped ∧ op.strength ≤ left.strength ∧ op.strength < right.strength

instance decidableGrouped : DecidablePred Grouped
  | operand term => inferInstanceAs (Decidable (term.isOperator = false))
  | operation op left right =>
    have := decidableGrouped left
    have := decidableGrouped right
    inferInstanceAs (Decidable (left.Grouped ∧ right.Grouped ∧
      op.strength ≤ left.strength ∧ op.strength < right.strength))

/-- The value of an expression, given the amounts of its operands; there is none if one of these is
missing or a result is out of range. Dividing by zero gives zero. -/
def value? (amount? : Term → Option Decimal) : Expression → Option Decimal
  | operand term => amount? term
  | operation op left right => do
    let first ← left.value? amount?
    let second ← right.value? amount?
    match op with
    | .add => first.add? second
    | .subtract => first.sub? second
    | .multiply => first.mul? second
    | .divide => if second.isZero then some 0 else first.div? second

end Expression

end Formula

end Payslip
