/-
# Components in words

A component described for people: a fixed amount in rupees, a percentage or a formula with the
names of the components it refers to.
-/

import Payslip.Component
import Payslip.Currency

namespace Payslip

/-- The name of what a reference stands for. -/
def Reference.describe (catalog : Catalog) : Reference → String
  | .ctc => "CTC (Monthly)"
  | .component id => ((catalog.component? id).map (·.name)).getD "Unknown"

/-- A term in words. -/
def Term.describe (catalog : Catalog) : Term → String
  | .operator op => op.symbol
  | .value reference => reference.describe catalog
  | .percentage percent reference =>
    percent.normalize.render ++ "% of " ++ reference.describe catalog

namespace Formula

/-- A formula in words, with blanks between the terms. -/
def describe (catalog : Catalog) (terms : List Term) : String :=
  " ".intercalate (terms.map (·.describe catalog))

end Formula

/-- How a component's amount comes about, in words. -/
def Component.describe (catalog : Catalog) (component : Component) : String :=
  match component.category with
  | .fixed => Currency.format component.amount
  | .percentage => Formula.describe catalog [.percentage component.amount component.basedOn]
  | .formula => Formula.describe catalog component.terms

end Payslip
