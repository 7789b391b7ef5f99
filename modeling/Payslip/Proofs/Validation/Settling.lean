/-
# What a validated catalog is

The strict check evaluates every component for a cost to company of zero, with one
store for all of them. It says nothing about the components that a stored amount hides,
and it never stores the component that it is at. This module proves that nothing is
missed all the same: in a validated catalog every reference exists and every component
settles. Both are facts about the references alone, so they hold for every cost to
company, although a single one was tried.

The invariant of the check is `HoldsSettled`: whatever is in store settles. Ids may be
repeated, in which case the later components are checked as well, but it is the first
one that settles.
-/

import Payslip.Proofs.Evaluation.Contract
import Payslip.Proofs.Evaluation.Dependency
import Payslip.Validation

namespace Payslip

open Evaluation

/-- Every reference exists, and none of the components depends on itself. -/
structure Catalog.IsSound (catalog : Catalog) : Prop where
  exists_of_listed : ∀ entry ∈ catalog, ∀ dependency ∈ entry.dependencies,
    catalog.component? dependency ≠ none
  settles : ∀ id, catalog.Settles ∅ id

/-- Everything in store settles. -/
def HoldsSettled (catalog : Catalog) (run : Run) : Prop :=
  ∀ id, run.amounts.get? id ≠ none → catalog.Settles ∅ id

variable {catalog : Catalog} {monthly : Decimal}

theorem HoldsSettled.holding {run : Run} {id : String} (settled : HoldsSettled catalog run)
    (settles : catalog.Settles ∅ id) (amount : Decimal) :
    HoldsSettled catalog (run.holding id amount) := by
  intro other stored
  by_cases same : other = id
  · rw [same]
    exact settles
  · rw [Run.amounts_holding, Amounts.get?_insert, if_neg same] at stored
    exact settled other stored

/-- When the answers to its questions settle, so do the dependencies of a component with a value. -/
theorem value_meets_settles (entry : Component) {give : String → Evaluation (Option Decimal)}
    (gives : ∀ id, Meets (HoldsSettled catalog) (give id)
      (fun _ run => catalog.Settles ∅ id ∧ HoldsSettled catalog run) (fun _ _ => True)) :
    Meets (HoldsSettled catalog) (entry.value monthly give)
      (fun _ run => (∀ dependency ∈ entry.dependencies, catalog.Settles ∅ dependency) ∧
        HoldsSettled catalog run)
      (fun _ _ => True) := by
  have value := Meets.value entry monthly (fun id _ => gives id) fun _ _ _ => trivial
  refine value.weaken (fun _ settled => settled) ?_ fun _ _ _ => trivial
  intro amount run ⟨each, settled⟩
  refine ⟨fun dependency listed => ?_, settled⟩
  obtain ⟨_, settles⟩ := each dependency listed
  exact settles

/-- Whatever has an amount settles, and so does all that was stored on the way. -/
theorem amount?_meets_settles (inProgress : List String) (id : String) :
    Meets (HoldsSettled catalog) (amount? catalog monthly inProgress id)
      (fun _ run => catalog.Settles ∅ id ∧ HoldsSettled catalog run) (fun _ _ => True) := by
  induction inProgress, id using catalog.followReferences with
  | _ inProgress id deeper =>
      refine .amount? ?stored ?missing ?circular ?evaluated
      case stored =>
        intro run amount settled held
        have stored : run.amounts.get? id ≠ none := by simp [held]
        exact ⟨settled id stored, settled⟩
      case missing => exact fun _ settled _ absent => ⟨.of_missing absent, settled⟩
      case circular => exact fun _ _ _ _ _ _ => trivial
      case evaluated =>
        intro entry found fresh
        refine (value_meets_settles entry (deeper entry found fresh)).weaken ?_ ?_
          fun _ _ _ => trivial
        · rintro _ ⟨start, settled, -, rfl⟩
          exact settled
        · intro amount run ⟨each, settled⟩
          have settles : catalog.Settles ∅ id := .of_dependencies found each
          exact ⟨settles, settled.holding settles amount⟩

/-- A component that is evaluated has dependencies that settle. It need not be the first one with
its id. -/
theorem component_meets_settles (entry : Component) :
    Meets (HoldsSettled catalog) (component catalog monthly entry)
      (fun _ run => (∀ dependency ∈ entry.dependencies, catalog.Settles ∅ dependency) ∧
        HoldsSettled catalog run)
      (fun _ _ => True) := by
  refine .component ?_ (value_meets_settles entry (amount?_meets_settles [entry.id]))
  exact fun _ settled => settled

/-- When all components of a list have been evaluated, all that they refer to settles. -/
theorem forM_component_meets_settles (catalog : Catalog) (monthly : Decimal)
    (components : List Component) :
    Meets (HoldsSettled catalog)
      (components.forM fun entry => do discard (component catalog monthly entry))
      (fun _ _ => ∀ entry ∈ components, ∀ dependency ∈ entry.dependencies,
        catalog.Settles ∅ dependency)
      (fun _ _ => True) := by
  let holds (done : List Component) (run : Run) : Prop :=
    (∀ entry ∈ done, ∀ dependency ∈ entry.dependencies, catalog.Settles ∅ dependency) ∧
      HoldsSettled catalog run
  have step : ∀ done entry rest, components = done ++ entry :: rest →
      Meets (holds done) (do discard (component catalog monthly entry))
        (fun _ => holds (done ++ [entry])) (fun _ _ => True) := by
    intro done entry rest _ run ⟨behind, settled⟩
    refine (component_meets_settles entry).discard ?_ run settled
    intro _ last ⟨each, settled⟩
    refine ⟨fun other listed => ?_, settled⟩
    rcases List.mem_append.mp listed with before | here
    · exact behind other before
    · rw [List.mem_singleton.mp here]
      exact each
  refine (Meets.forM step).weaken ?_ (fun _ _ reached => reached.1) (fun _ _ _ => trivial)
  exact fun run settled => ⟨List.forall_mem_nil _, settled⟩

theorem Catalog.component?_ne_none_of_validateEntry {entry : Component}
    (accepted : catalog.validateEntry entry = .ok ()) :
    ∀ dependency ∈ entry.dependencies, catalog.component? dependency ≠ none := by
  intro dependency listed absent
  have complete : entry.dependencies.find? (fun id => (catalog.component? id).isNone) = none := by
    cases searched : entry.dependencies.find? fun id => (catalog.component? id).isNone with
    | none => rfl
    | some missing =>
        simp only [validateEntry, searched] at accepted
        split at accepted
        · obtain ⟨_, -, refused⟩ := Outcome.bind_eq_ok_iff.mp accepted
          cases refused
        · cases accepted
  have present := List.find?_eq_none.mp complete dependency listed
  rw [absent] at present
  exact present rfl

/-- A catalog is accepted only if it is sound. -/
theorem Catalog.isSound_of_validate (validated : catalog.validate = .ok ()) : catalog.IsSound := by
  rw [Catalog.validate] at validated
  obtain ⟨_, entries, passed⟩ := Outcome.bind_eq_ok_iff.mp validated
  have evaluated := forM_component_meets_settles catalog (monthlyShare 0) catalog (.start ∅)
    fun _ stored => absurd rfl stored
  simp only at passed
  rcases ended : runFrom (catalog.forM fun entry => do
    discard (component catalog (monthlyShare 0) entry)) (.start ∅) with ⟨outcome, last⟩
  rw [ended] at passed evaluated
  subst passed
  constructor
  · intro entry listed
    exact Catalog.component?_ne_none_of_validateEntry
      (Outcome.ok_of_forM_eq_ok entries entry listed)
  · intro id
    cases found : catalog.component? id with
    | none => exact .of_missing found
    | some entry =>
        exact .of_dependencies found (evaluated entry (Catalog.mem_of_component? found))

end Payslip
