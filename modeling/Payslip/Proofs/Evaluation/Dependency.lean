/-
# Following references to their ends

Evaluating a component means following its references, theirs, and so on; amounts
that are known beforehand cut this short. A component *settles* when every way along
the references comes to an end, that is, when no cycle can be reached from it.

What the components in progress are matters only for components that do not settle.
This is the fact that makes a store of amounts sound: `amount?_eq_of_settles` says
that a component that settles has the same amount whatever led to it, and
`settles_of_amount?_eq_ok` that whatever has an amount settles. Neither asks for
distinct ids, nor that all references exist.
-/

import Payslip.Evaluation.Plain
import Payslip.Proofs.Evaluation.Inquiry

namespace Payslip

open Relation (TransGen)

namespace Catalog

/-- The first id is one that evaluating the second one asks for. -/
def Feeds (catalog : Catalog) (known : Amounts) (dependency id : String) : Prop :=
  known.get? id = none ∧
    ∃ component, catalog.component? id = some component ∧ dependency ∈ component.dependencies

/-- Every way along the references from an id comes to an end. -/
def Settles (catalog : Catalog) (known : Amounts) (id : String) : Prop :=
  Acc (catalog.Feeds known) id

/-- Every id in progress has led to this one by references, unless it is known beforehand and so is
not followed when it is met again. -/
def LeadTo (catalog : Catalog) (known : Amounts) (inProgress : List String) (id : String) : Prop :=
  ∀ earlier ∈ inProgress,
    known.get? earlier ≠ none ∨ TransGen (catalog.Feeds known) id earlier

variable {catalog : Catalog} {known : Amounts} {inProgress : List String} {id : String}

/-- No way along the references leads from a component that settles back to it. -/
theorem Settles.not_transGen_self (settles : catalog.Settles known id) :
    ¬ TransGen (catalog.Feeds known) id id := by
  intro around
  have accessible : Acc (TransGen (catalog.Feeds known)) id := settles.transGen
  induction accessible with
  | intro id _ ih => exact ih id around settles around

theorem LeadTo.nil : catalog.LeadTo known [] id := by
  intro earlier listed
  cases listed

/-- What is in progress leads to what the latest component asks for. -/
theorem LeadTo.cons {dependency : String} (lead : catalog.LeadTo known inProgress id)
    (feeds : catalog.Feeds known dependency id) :
    catalog.LeadTo known (id :: inProgress) dependency := by
  intro earlier listed
  rcases List.mem_cons.mp listed with rfl | before
  · exact .inr (.single feeds)
  · rcases lead earlier before with cut | way
    · exact .inl cut
    · exact .inr (TransGen.trans (.single feeds) way)

theorem LeadTo.of_component? {component : Component} {dependency : String}
    (found : catalog.component? id = some component)
    (listed : dependency ∈ component.dependencies) : catalog.LeadTo known [id] dependency := by
  intro earlier same
  rw [List.mem_singleton.mp same]
  by_cases cut : known.get? id = none
  · exact .inr (.single ⟨cut, component, found, listed⟩)
  · exact .inl cut

/-- A component that settles is never met again among those that led to it. -/
theorem LeadTo.not_mem (lead : catalog.LeadTo known inProgress id)
    (settles : catalog.Settles known id) (unknown : known.get? id = none) : id ∉ inProgress := by
  intro met
  rcases lead id met with cut | around
  · exact cut unknown
  · exact settles.not_transGen_self around

theorem Settles.of_known {amount : Decimal} (cut : known.get? id = some amount) :
    catalog.Settles known id := by
  refine .intro id fun dependency feeds => ?_
  rw [feeds.1] at cut
  cases cut

theorem Settles.of_missing (absent : catalog.component? id = none) :
    catalog.Settles known id := by
  refine .intro id fun dependency feeds => ?_
  obtain ⟨component, found, -⟩ := feeds.2
  rw [absent] at found
  cases found

theorem Settles.of_dependencies {component : Component}
    (found : catalog.component? id = some component)
    (each : ∀ dependency ∈ component.dependencies, catalog.Settles known dependency) :
    catalog.Settles known id := by
  refine .intro id fun dependency feeds => ?_
  obtain ⟨other, same, listed⟩ := feeds.2
  cases found.symm.trans same
  exact each dependency listed

/-- A property of ids with what is in progress holds when it holds of each on the strength of what
the references of a fresh component lead to: there are only so many ids left to take up. -/
theorem followReferences (catalog : Catalog) {motive : List String → String → Prop}
    (step : ∀ inProgress id,
      (∀ entry, catalog.component? id = some entry → id ∉ inProgress →
        ∀ dependency, motive (id :: inProgress) dependency) → motive inProgress id)
    (inProgress : List String) (id : String) : motive inProgress id := by
  apply step inProgress id
  intro entry found fresh dependency
  exact catalog.followReferences step (id :: inProgress) dependency
termination_by (catalog.waiting inProgress).length
decreasing_by exact length_waiting_cons_lt (mem_ids_of_component? found) fresh

end Catalog

/-! ## The amounts of plain evaluation -/

namespace Plain

variable {catalog : Catalog} {monthly : Decimal} {known : Amounts} {inProgress : List String}
  {id : String}

theorem amount?_of_known {amount : Decimal} (cut : known.get? id = some amount) :
    amount? catalog monthly known inProgress id = .ok (some amount) := by
  rw [amount?, cut]

theorem amount?_of_missing (unknown : known.get? id = none)
    (absent : catalog.component? id = none) :
    amount? catalog monthly known inProgress id = .ok none := by
  rw [amount?, unknown]
  simp only
  split
  · rfl
  · simp_all

theorem amount?_of_mem {entry : Component} (unknown : known.get? id = none)
    (found : catalog.component? id = some entry) (met : id ∈ inProgress) :
    amount? catalog monthly known inProgress id =
      .error (.circularReference (Evaluation.cycle inProgress id)) := by
  rw [amount?, unknown]
  simp only
  split
  · simp_all
  · exact dif_pos met

theorem amount?_of_not_mem {entry : Component} (unknown : known.get? id = none)
    (found : catalog.component? id = some entry) (fresh : id ∉ inProgress) :
    amount? catalog monthly known inProgress id =
      (entry.value monthly (amount? catalog monthly known (id :: inProgress))).map some := by
  rw [amount?, unknown]
  simp only
  split
  · simp_all
  · next other same =>
    cases found.symm.trans same
    exact dif_neg fresh

/-- Whatever has an amount, or turns out to have none, settles. -/
theorem settles_of_amount?_eq_ok {amount : Option Decimal}
    (reached : amount? catalog monthly known inProgress id = .ok amount) :
    catalog.Settles known id := by
  induction inProgress, id using catalog.followReferences generalizing amount with
  | _ inProgress id deeper =>
      cases unknown : known.get? id with
      | some value => exact .of_known unknown
      | none =>
          cases found : catalog.component? id with
          | none => exact .of_missing found
          | some entry =>
              by_cases met : id ∈ inProgress
              · rw [amount?_of_mem unknown found met] at reached
                cases reached
              · rw [amount?_of_not_mem unknown found met] at reached
                obtain ⟨value, evaluated, -⟩ := Outcome.map_eq_ok_iff.mp reached
                refine .of_dependencies found fun dependency listed => ?_
                obtain ⟨part, given⟩ :=
                  Component.exists_answer_of_value_eq_ok evaluated dependency listed
                exact deeper entry found met dependency given

/-- A component that settles has one amount, whatever led to it. -/
theorem amount?_eq_of_settles {first second : List String} (settles : catalog.Settles known id)
    (leadFirst : catalog.LeadTo known first id) (leadSecond : catalog.LeadTo known second id) :
    amount? catalog monthly known first id = amount? catalog monthly known second id := by
  induction settles generalizing first second with
  | intro id later ih =>
      have settles : catalog.Settles known id := .intro id later
      cases unknown : known.get? id with
      | some amount => rw [amount?_of_known unknown, amount?_of_known unknown]
      | none =>
          cases found : catalog.component? id with
          | none => rw [amount?_of_missing unknown found, amount?_of_missing unknown found]
          | some entry =>
              rw [amount?_of_not_mem unknown found (leadFirst.not_mem settles unknown),
                amount?_of_not_mem unknown found (leadSecond.not_mem settles unknown)]
              congr 1
              apply Component.value_congr
              intro dependency listed
              have feeds : catalog.Feeds known dependency id := ⟨unknown, entry, found, listed⟩
              exact ih dependency feeds (leadFirst.cons feeds) (leadSecond.cons feeds)

/-- The amount of a component of the catalog is its value, unless it is known beforehand. -/
theorem amount?_nil_of_component? {entry : Component} (unknown : known.get? entry.id = none)
    (found : catalog.component? entry.id = some entry) :
    amount? catalog monthly known [] entry.id =
      (component catalog monthly known entry).map some :=
  amount?_of_not_mem unknown found List.not_mem_nil

end Plain

end Payslip
