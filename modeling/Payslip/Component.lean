/-
# Payroll components

A component is one line of pay: an earning or a deduction whose monthly amount is fixed, a
percentage of something else, or a formula. The fields of the categories that a component does
not belong to are kept but have no effect.
-/

import Payslip.Formula.Term

namespace Payslip

/-- Whether a component adds to pay or takes from it. -/
inductive Component.Kind
  | earning
  | deduction
  deriving DecidableEq, Repr, Inhabited

/-- How the monthly amount of a component comes about. -/
inductive Component.Category
  /-- The amount as it stands. -/
  | fixed
  /-- So many percent of what the component is based on. -/
  | percentage
  /-- The value of a formula. -/
  | formula
  deriving DecidableEq, Repr, Inhabited

/-- A component of pay. -/
structure Component where
  id : String
  name : String
  kind : Component.Kind
  category : Component.Category
  /-- The monthly amount, or the percentage. -/
  amount : Decimal
  basedOn : Reference
  terms : List Term
  /-- Unpaid leave reduces the component. -/
  prorated : Bool
  deriving DecidableEq, Repr

namespace Component

/-- A component of a fixed monthly amount. -/
def fixed (id name : String) (kind : Kind) (amount : Decimal) : Component :=
  { id, name, kind, category := .fixed, amount, basedOn := .ctc, terms := [], prorated := false }

/-- A component of so many percent of a reference. -/
def percentage (id name : String) (kind : Kind) (percent : Decimal) (basedOn : Reference) :
    Component :=
  { fixed id name kind percent with category := .percentage, basedOn }

/-- A component whose amount is the value of a formula. -/
def formula (id name : String) (kind : Kind) (terms : List Term) : Component :=
  { fixed id name kind 0 with category := .formula, terms }

/-- The component, reduced by unpaid leave from now on. -/
def withProration (component : Component) : Component := { component with prorated := true }

/-- The component adds to pay. -/
def isEarning (component : Component) : Bool := component.kind == .earning

/-- The ids that the component's amount is computed from directly, in the order in which it
refers to them and as often. -/
def dependencies (component : Component) : List String :=
  match component.category with
  | .fixed => []
  | .percentage => component.basedOn.componentId?.toList
  | .formula => component.terms.filterMap Term.componentId?

end Component

/-- The components that pay is computed from, in the order in which they are shown. -/
abbrev Catalog := List Component

namespace Catalog

/-- The first component with the given id. -/
def component? (catalog : Catalog) (id : String) : Option Component :=
  catalog.find? (·.id == id)

/-- The ids of a catalog in its order. -/
def ids (catalog : Catalog) : List String := catalog.map (·.id)

/-- The ids of a catalog that are not in progress. -/
def waiting (catalog : Catalog) (inProgress : List String) : List String :=
  catalog.ids.filter (· ∉ inProgress)

theorem id_of_component? {catalog : Catalog} {id : String} {component : Component}
    (found : catalog.component? id = some component) : component.id = id := by
  have := List.find?_some found
  simpa using this

theorem mem_of_component? {catalog : Catalog} {id : String} {component : Component}
    (found : catalog.component? id = some component) : component ∈ catalog :=
  List.mem_of_find?_eq_some found

theorem mem_ids_of_component? {catalog : Catalog} {id : String} {component : Component}
    (found : catalog.component? id = some component) : id ∈ catalog.ids := by
  rw [← id_of_component? found]
  exact List.mem_map_of_mem (mem_of_component? found)

/-- Taking up a catalog id that is not yet in progress leaves fewer ids waiting. -/
theorem length_waiting_cons_lt {catalog : Catalog} {inProgress : List String} {id : String}
    (listed : id ∈ catalog.ids) (fresh : id ∉ inProgress) :
    (catalog.waiting (id :: inProgress)).length < (catalog.waiting inProgress).length := by
  have step :
      catalog.waiting (id :: inProgress) = (catalog.waiting inProgress).filter (· ≠ id) := by
    simp only [waiting, List.filter_filter, List.mem_cons, not_or]
    congr 1
    funext other
    simp
  rw [step]
  apply List.length_filter_lt_length_iff_exists.2
  exact ⟨id, by simp [waiting, listed, fresh], by simp⟩

end Catalog

end Payslip
