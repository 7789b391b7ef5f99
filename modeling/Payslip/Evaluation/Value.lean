/-
# The value of one component

How a component's monthly amount follows from the monthly cost to company and from the amounts
of the components it refers to. Who answers for those is left open: the rules here ask for them
by id, in the order in which the component refers to them, and say what stands in for a
component that does not exist.
-/

import Payslip.Component
import Payslip.Formula.Reduction

namespace Payslip

variable {m : Type → Type} [Monad m] [MonadExceptOf PayError m]

/-- The amount behind a reference; `missing` stands in for a component that does not exist. -/
def Reference.amount (monthly missing : Decimal) (ask : String → m (Option Decimal)) :
    Reference → m Decimal
  | .ctc => pure monthly
  | .component id => do return (← ask id).getD missing

namespace Formula

/-- The amount of an operand. A component that does not exist counts as zero. -/
def operand? (monthly : Decimal) (ask : String → m (Option Decimal)) :
    Term → m (Option Decimal)
  | .operator _ => pure none
  | .value reference => do return some (← reference.amount monthly 0 ask)
  | .percentage percent reference => do
    let base ← reference.amount monthly 0 ask
    let part ← MonadExcept.ofExcept (percentOf base percent)
    return some part

/-- The amounts of the operands of a formula, from left to right. -/
def operands (monthly : Decimal) (ask : String → m (Option Decimal)) :
    List Term → m (List Decimal)
  | [] => pure []
  | term :: rest => do
    match ← operand? monthly ask term with
    | none => operands monthly ask rest
    | some amount => return amount :: (← operands monthly ask rest)

/-- The operators of a formula, from left to right. -/
def operators (terms : List Term) : List Operator :=
  terms.filterMap fun
    | .operator op => some op
    | _ => none

/-- The value of a formula. -/
def value (monthly : Decimal) (ask : String → m (Option Decimal)) (terms : List Term) :
    m Decimal := do
  let amounts ← operands monthly ask terms
  MonadExcept.ofExcept (reduce amounts (operators terms))

end Formula

/-- The monthly amount of a component. A percentage of a component that does not exist is taken
of the monthly cost to company. -/
def Component.value (monthly : Decimal) (ask : String → m (Option Decimal))
    (component : Component) : m Decimal :=
  match component.category with
  | .fixed => pure component.amount
  | .percentage => do
    let base ← component.basedOn.amount monthly monthly ask
    MonadExcept.ofExcept (percentOf base component.amount)
  | .formula => Formula.value monthly ask component.terms

end Payslip
