/-
# Evaluation looks no further than references lead

An evaluation knows a catalog only by what it finds in it, and it searches only for ids that the
references lead to. So two catalogs that have the same components under those ids are evaluated
in one and the same way: `amount?_congr` equates the two computations, with their outcomes, the
amounts they store and all that happens on the way. Cycles and references that lead nowhere are
no exception.
-/

import Mathlib.Logic.Relation
import Payslip.Proofs.Evaluation.Contract
import Payslip.Proofs.Evaluation.Dependency

namespace Payslip

open Relation (ReflTransGen)

namespace Catalog

/-- The component with the first id refers to the second id. -/
def DependsOn (catalog : Catalog) (id dependency : String) : Prop :=
  ∃ component, catalog.component? id = some component ∧ dependency ∈ component.dependencies

/-- The references lead from the first id to the second, in any number of steps. -/
def Reaches (catalog : Catalog) : String → String → Prop := ReflTransGen catalog.DependsOn

/-- The references of some components lead to the id. -/
def ReachedFrom (catalog : Catalog) (components : List Component) (id : String) : Prop :=
  ∃ component ∈ components, ∃ dependency ∈ component.dependencies, catalog.Reaches dependency id

variable {catalog again : Catalog} {id : String}

/-- Nothing leads out of ids that refer to each other only. -/
theorem ReachedFrom.mem_of_closed {components : List Component} {ids : List String}
    (within : ∀ component ∈ components, ∀ dependency ∈ component.dependencies, dependency ∈ ids)
    (closed : ∀ id ∈ ids, ∀ component ∈ catalog.component? id,
      ∀ dependency ∈ component.dependencies, dependency ∈ ids)
    (reached : catalog.ReachedFrom components id) : id ∈ ids := by
  obtain ⟨component, listed, dependency, needed, way⟩ := reached
  induction way with
  | refl => exact within component listed dependency needed
  | tail _ step ih =>
      obtain ⟨entry, found, next⟩ := step
      exact closed _ ih entry found _ next

/-- Both catalogs have the same component, or none, under every id that the references lead to. -/
def AgreesFrom (catalog again : Catalog) (id : String) : Prop :=
  ∀ other, catalog.Reaches id other → again.component? other = catalog.component? other

theorem AgreesFrom.component?_eq (agrees : catalog.AgreesFrom again id) :
    again.component? id = catalog.component? id := agrees id ReflTransGen.refl

theorem AgreesFrom.dependency {component : Component} {dependency : String}
    (agrees : catalog.AgreesFrom again id) (found : catalog.component? id = some component)
    (listed : dependency ∈ component.dependencies) : catalog.AgreesFrom again dependency :=
  fun other way => agrees other (ReflTransGen.head ⟨component, found, listed⟩ way)

end Catalog

namespace Evaluation

variable {catalog again : Catalog} (monthly : Decimal)

/-- Asking for an amount is one computation in catalogs that agree on all that it leads to. -/
theorem amount?_congr (inProgress : List String) (id : String)
    (agrees : catalog.AgreesFrom again id) :
    amount? again monthly inProgress id = amount? catalog monthly inProgress id := by
  induction inProgress, id using catalog.followReferences with
  | step inProgress id deeper =>
      rw [amount?_eq, amount?_eq, agrees.component?_eq]
      cases found : catalog.component? id with
      | none => rfl
      | some entry =>
          by_cases met : id ∈ inProgress
          · simp only [if_pos met]
          · have value : entry.value monthly (amount? again monthly (id :: inProgress)) =
                entry.value monthly (amount? catalog monthly (id :: inProgress)) := by
              apply Component.value_congr
              intro dependency listed
              exact deeper entry found met dependency (agrees.dependency found listed)
            simp only [if_neg met, value]

variable {entry : Component}

/-- So is evaluating a component, in the catalogs or not. -/
theorem component_congr
    (agrees : ∀ dependency ∈ entry.dependencies, catalog.AgreesFrom again dependency) :
    component again monthly entry = component catalog monthly entry := by
  have value : entry.value monthly (amount? again monthly [entry.id]) =
      entry.value monthly (amount? catalog monthly [entry.id]) := by
    apply Component.value_congr
    intro dependency listed
    exact amount?_congr monthly [entry.id] dependency (agrees dependency listed)
  rw [component, component, value]

theorem stored_congr
    (agrees : ∀ dependency ∈ entry.dependencies, catalog.AgreesFrom again dependency) :
    stored again monthly entry = stored catalog monthly entry := by
  rw [stored, stored, component_congr monthly agrees]

end Evaluation

end Payslip
