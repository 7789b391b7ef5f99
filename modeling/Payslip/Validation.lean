/-
# Strict checks of formulas and catalogs

Calculations are lenient: a malformed formula has a value and a dangling reference a stand-in.
These checks are for those who edit a catalog and want to hear of such things before it is used.
-/

import Payslip.Evaluation.Run

namespace Payslip

namespace Formula

/-- The first neighbours that do not alternate between operand and operator. The index is that of
the first term of the list. -/
def misplaced? (index : Nat) : List Term → Option FormulaFault
  | left :: right :: rest =>
    match left.isOperator, right.isOperator with
    | true, true => some (.adjacentOperators (index + 1))
    | false, false => some (.missingOperator (index + 1))
    | _, _ => misplaced? (index + 1) (right :: rest)
  | _ => none

/-- What a strict check finds wrong with the formula of a component. -/
def fault? (componentId : String) (terms : List Term) : Option FormulaFault :=
  if terms.head?.any Term.isOperator then some .leadingOperator
  else if terms.getLast?.any Term.isOperator then some .trailingOperator
  else
    match misplaced? 0 terms with
    | some fault => some fault
    | none =>
      if terms.any (·.componentId? == some componentId) then some .selfReference else none

/-- Accepts the formula of a component when operands and operators alternate, from an operand to
an operand, and none of them refers to the component itself. -/
def validate (componentId : String) (terms : List Term) : Except PayError Unit :=
  match fault? componentId terms with
  | none => .ok ()
  | some fault => .error (.invalidFormula componentId fault)

end Formula

namespace Catalog

/-- Checks the formula of a component, if it has one, and that all it refers to exists. -/
def validateEntry (catalog : Catalog) (component : Component) : Except PayError Unit := do
  if component.category = .formula then Formula.validate component.id component.terms
  match component.dependencies.find? fun id => (catalog.component? id).isNone with
  | some missing => throw (.componentNotFound missing)
  | none => return ()

/-- Accepts a catalog whose formulas are well formed, whose references exist, and in which no
component depends on itself. The last is found by evaluating every component for a cost to
company of zero. -/
def validate (catalog : Catalog) : Except PayError Unit := do
  catalog.forM (validateEntry catalog)
  let evaluation : Evaluation Unit := catalog.forM fun component =>
    discard (Evaluation.component catalog (monthlyShare 0) component)
  (Evaluation.runFrom evaluation (.start ∅)).1

end Catalog

end Payslip
