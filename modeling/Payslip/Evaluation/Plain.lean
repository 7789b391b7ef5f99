/-
# Evaluation without a store

The same amounts as a run computes, by plain recursion that stores nothing: amounts known
beforehand come first, then the catalog. It says what the amounts of a run mean.
-/

import Payslip.Evaluation.Run

namespace Payslip.Plain

/-- The amount of the component with the given id. Amounts in `known` are taken as they are; there
is none for an id that is neither known nor in the catalog. -/
def amount? (catalog : Catalog) (monthly : Decimal) (known : Amounts) (inProgress : List String)
    (id : String) : Except PayError (Option Decimal) :=
  match known.get? id with
  | some amount => .ok (some amount)
  | none =>
    match _ : catalog.component? id with
    | none => .ok none
    | some component =>
      if _ : id ∈ inProgress then
        .error (.circularReference (Evaluation.cycle inProgress id))
      else
        (component.value monthly (amount? catalog monthly known (id :: inProgress))).map some
termination_by (catalog.waiting inProgress).length
decreasing_by exact Catalog.length_waiting_cons_lt (Catalog.mem_ids_of_component? ‹_›) ‹_›

/-- The amount of a component, which need not be in the catalog. -/
def component (catalog : Catalog) (monthly : Decimal) (known : Amounts) (entry : Component) :
    Except PayError Decimal :=
  entry.value monthly (amount? catalog monthly known [entry.id])

/-- The value of a formula on its own. -/
def formula (catalog : Catalog) (monthly : Decimal) (known : Amounts) (terms : List Term) :
    Except PayError Decimal :=
  Formula.value monthly (amount? catalog monthly known []) terms

end Payslip.Plain
