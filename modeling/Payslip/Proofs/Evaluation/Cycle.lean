/-
# Circular references

Evaluating a component follows references depth first. The ids in progress are the way from the
component to the id at hand, and an id that is met again while it is in progress closes a cycle.
`Underway` is what the ids in progress always are, and `Underway.isCycle` says that what is
reported is then a cycle of the catalog.

`component_circular` states both directions for a component that is evaluated on its own with
nothing in store: only a cycle that its references lead to is ever reported, and such a cycle is
never passed over. A cycle need not be reported, though, because a calculation may go out of range
before it is closed. Diamonds, repeated references and references that lead nowhere are no cycles.
-/

import Mathlib.Data.List.Chain
import Mathlib.Data.List.Nodup
import Mathlib.Data.List.TakeWhile
import Payslip.Proofs.Evaluation.Reach
import Payslip.Proofs.Evaluation.Session

namespace Payslip

open Relation (ReflTransGen TransGen)

namespace Catalog

/-- A way along the references that ends where it began and meets no other id twice. -/
structure IsCycle (catalog : Catalog) (path : List String) : Prop where
  linked : path.IsChain catalog.DependsOn
  closed : path.head? = path.getLast?
  distinct : path.dropLast.Nodup
  nontrivial : 2 ≤ path.length

/-- The references lead from the id to one that depends on itself. -/
def LeadsIntoCycle (catalog : Catalog) (id : String) : Prop :=
  ∃ other, catalog.Reaches id other ∧ TransGen catalog.DependsOn other other

/-- The ids in progress, latest first, are a way along the references from the start to the id. -/
structure Underway (catalog : Catalog) (start : String) (inProgress : List String)
    (id : String) : Prop where
  linked : (id :: inProgress).IsChain fun later earlier => catalog.DependsOn earlier later
  distinct : inProgress.Nodup
  reached : ∀ other ∈ id :: inProgress, catalog.Reaches start other

variable {catalog : Catalog} {start id dependency : String} {inProgress path : List String}

/-! ## The way to a reference -/

theorem Underway.of_dependsOn (step : catalog.DependsOn start dependency) :
    catalog.Underway start [start] dependency where
  linked := .cons_cons step (.singleton start)
  distinct := List.nodup_singleton start
  reached other listed := by
    rcases List.mem_cons.mp listed with rfl | same
    · exact ReflTransGen.single step
    · rw [List.mem_singleton.mp same]
      exact ReflTransGen.refl

/-- Taking up a fresh id prolongs the way by one of its references. -/
theorem Underway.cons (underway : catalog.Underway start inProgress id)
    (fresh : id ∉ inProgress) (step : catalog.DependsOn id dependency) :
    catalog.Underway start (id :: inProgress) dependency where
  linked := .cons_cons step underway.linked
  distinct := List.nodup_cons.mpr ⟨fresh, underway.distinct⟩
  reached other listed := by
    rcases List.mem_cons.mp listed with rfl | before
    · exact (underway.reached id List.mem_cons_self).tail step
    · exact underway.reached other before

private theorem exists_eq_takeWhile_append (met : id ∈ inProgress) :
    ∃ before, inProgress = inProgress.takeWhile (· ≠ id) ++ id :: before := by
  induction inProgress with
  | nil => cases met
  | cons latest rest ih =>
      by_cases same : latest = id
      · exact ⟨rest, by simp [same]⟩
      · obtain ⟨before, split⟩ := ih ((List.mem_cons.mp met).resolve_left (Ne.symm same))
        refine ⟨before, ?_⟩
        rw [List.takeWhile_cons_of_pos (by simpa using same), List.cons_append, ← split]

/-- An id that is met again closes a cycle. -/
theorem Underway.isCycle (underway : catalog.Underway start inProgress id)
    (met : id ∈ inProgress) : catalog.IsCycle (Evaluation.cycle inProgress id) := by
  obtain ⟨before, split⟩ := exists_eq_takeWhile_append met
  let since := inProgress.takeWhile (· ≠ id)
  have cycle_eq : Evaluation.cycle inProgress id = id :: since.reverse ++ [id] := rfl
  rw [cycle_eq]
  constructor
  case linked =>
    have backward : id :: since.reverse ++ [id] = (id :: since ++ [id]).reverse := by simp
    rw [backward, List.isChain_reverse]
    apply underway.linked.prefix
    refine ⟨before, ?_⟩
    conv_rhs => rw [split]
    simp [since]
  case closed =>
    rw [List.getLast?_concat]
    rfl
  case distinct =>
    rw [List.dropLast_concat, List.nodup_cons, List.nodup_reverse, List.mem_reverse]
    refine ⟨fun again => ?_, underway.distinct.sublist (List.takeWhile_sublist _)⟩
    simpa using List.mem_takeWhile_imp again
  case nontrivial => simp

theorem IsCycle.exists_transGen (cycle : catalog.IsCycle path) :
    ∃ first ∈ path.head?, TransGen catalog.DependsOn first first := by
  obtain ⟨linked, closed, -, nontrivial⟩ := cycle
  match path, nontrivial with
  | first :: second :: rest, _ =>
      refine ⟨first, rfl, ?_⟩
      obtain ⟨step, onward⟩ := List.isChain_cons_cons.mp linked
      have last : (second :: rest).getLast (List.cons_ne_nil second rest) = first := by
        rw [List.head?_cons, List.getLast?_eq_some_getLast (List.cons_ne_nil _ _)] at closed
        simpa using (Option.some.inj closed).symm
      exact TransGen.head' step (List.relationReflTransGen_of_exists_isChain_cons _ onward last)

/-! ## References that settle -/

theorem feeds_empty_iff : catalog.Feeds ∅ dependency id ↔ catalog.DependsOn id dependency :=
  ⟨fun feeds => feeds.2, fun step => ⟨rfl, step⟩⟩

theorem Settles.of_reaches (settles : catalog.Settles ∅ id) {other : String}
    (way : catalog.Reaches id other) : catalog.Settles ∅ other := by
  induction way with
  | refl => exact settles
  | tail _ step ih => exact ih.inv (feeds_empty_iff.mpr step)

/-- No cycle can be reached from a component that settles. -/
theorem Settles.not_leadsIntoCycle (settles : catalog.Settles ∅ id) :
    ¬ catalog.LeadsIntoCycle id := by
  rintro ⟨other, way, around⟩
  apply (settles.of_reaches way).not_transGen_self
  rw [← Relation.transGen_swap]
  exact TransGen.mono (fun _ _ step => feeds_empty_iff.mpr step) _ _ around

end Catalog

namespace Plain

variable {catalog : Catalog} {monthly : Decimal} {start id : String} {inProgress path : List String}

/-- What plain evaluation reports on its way from a component is a cycle that the component leads
to. -/
theorem isCycle_of_amount?_eq_error (underway : catalog.Underway start inProgress id)
    (failed : amount? catalog monthly ∅ inProgress id = .error (.circularReference path)) :
    catalog.IsCycle path ∧ ∃ first ∈ path.head?, catalog.Reaches start first := by
  induction inProgress, id using catalog.followReferences with
  | step inProgress id deeper =>
      cases found : catalog.component? id with
      | none =>
          rw [amount?_of_missing rfl found] at failed
          cases failed
      | some entry =>
          by_cases met : id ∈ inProgress
          · rw [amount?_of_mem rfl found met] at failed
            cases failed
            exact ⟨underway.isCycle met, id, rfl, underway.reached id List.mem_cons_self⟩
          · rw [amount?_of_not_mem rfl found met] at failed
            have value := Outcome.map_eq_error_iff.mp failed
            rcases Component.exists_answer_of_value_eq_error value with
              ⟨fault, outOfRange⟩ | ⟨dependency, listed, given⟩
            · cases outOfRange
            · have step : catalog.DependsOn id dependency := ⟨entry, found, listed⟩
              exact deeper entry found met dependency (underway.cons met step) given

theorem isCycle_of_component_eq_error {entry : Component}
    (found : catalog.component? entry.id = some entry)
    (failed : component catalog monthly ∅ entry = .error (.circularReference path)) :
    catalog.IsCycle path ∧ ∃ first ∈ path.head?, catalog.Reaches entry.id first := by
  rcases Component.exists_answer_of_value_eq_error failed with
    ⟨fault, outOfRange⟩ | ⟨dependency, listed, given⟩
  · cases outOfRange
  · exact isCycle_of_amount?_eq_error (.of_dependsOn ⟨entry, found, listed⟩) given

/-- A component with a value settles. -/
theorem settles_of_component_eq_ok {entry : Component} {amount : Decimal}
    (found : catalog.component? entry.id = some entry)
    (reached : component catalog monthly ∅ entry = .ok amount) : catalog.Settles ∅ entry.id := by
  apply Catalog.Settles.of_dependencies found
  intro dependency listed
  obtain ⟨part, given⟩ := Component.exists_answer_of_value_eq_ok reached dependency listed
  exact settles_of_amount?_eq_ok given

end Plain

namespace Evaluation

variable {catalog : Catalog}

/-- The outcome of evaluating a component on its own, with nothing in store. -/
def componentOutcome (catalog : Catalog) (ctc : Decimal) (entry : Component) :
    Except PayError Decimal :=
  (runFrom (component catalog (monthlyShare ctc) entry) (.start ∅)).1

theorem componentOutcome_eq_plain (ctc : Decimal) {entry : Component}
    (found : catalog.component? entry.id = some entry) :
    componentOutcome catalog ctc entry = Plain.component catalog (monthlyShare ctc) ∅ entry :=
  (component_agrees found (.start ∅) (.refl catalog (monthlyShare ctc) ∅)).1

/-- A circular reference that is reported is a cycle of the catalog, in the order of the references
and joined by arrows, that starts at the component or where its references lead to. A component
whose references lead into a cycle has no value, and one whose references do not is never reported
as circular. -/
theorem component_circular (ctc : Decimal) {entry : Component}
    (found : catalog.component? entry.id = some entry) :
    (∀ path, componentOutcome catalog ctc entry = .error (.circularReference path) →
      catalog.IsCycle path ∧ (∃ first ∈ path.head?, catalog.Reaches entry.id first) ∧
        (PayError.circularReference path).message =
          "Circular component reference: " ++ " → ".intercalate path) ∧
    (catalog.LeadsIntoCycle entry.id →
      ∃ error, componentOutcome catalog ctc entry = .error error) ∧
    (¬ catalog.LeadsIntoCycle entry.id →
      ∀ path, componentOutcome catalog ctc entry ≠ .error (.circularReference path)) := by
  rw [componentOutcome_eq_plain ctc found]
  refine ⟨?_, ?_, ?_⟩
  · intro path failed
    obtain ⟨cycle, reached⟩ := Plain.isCycle_of_component_eq_error found failed
    exact ⟨cycle, reached, rfl⟩
  · intro leads
    cases outcome : Plain.component catalog (monthlyShare ctc) ∅ entry with
    | error error => exact ⟨error, rfl⟩
    | ok amount =>
        have settles := Plain.settles_of_component_eq_ok found outcome
        exact absurd leads settles.not_leadsIntoCycle
  · intro acyclic path failed
    obtain ⟨cycle, first, head, way⟩ := Plain.isCycle_of_component_eq_error found failed
    obtain ⟨other, head', around⟩ := cycle.exists_transGen
    cases Option.mem_unique head head'
    exact acyclic ⟨first, way, around⟩

/-- A component outside a cycle that refers to it. -/
def outsider : Component := .percentage "bonus" "Bonus" .earning (.ofWord 10) (.component "grade")

/-- A component that reaches another one in two ways. -/
def diamond : Component :=
  .formula "total" "Total" .earning
    [.value (.component "hra"), .operator .add, .value (.component "basic")]

/-- A cycle of a percentage and a formula, which refers to a diamond first. -/
def knottedCatalog : Catalog :=
  [diamond, outsider,
    .percentage "hra" "House Rent" .earning (.ofWord 50) (.component "basic"),
    .percentage "basic" "Basic" .earning (.ofWord 40) .ctc,
    .formula "grade" "Grade" .earning
      [.value (.component "total"), .operator .add, .value (.component "perk")],
    .percentage "perk" "Perk" .earning (.ofWord 5) (.component "grade")]

theorem component_circular_knottedCatalog :
    knottedCatalog.component? outsider.id = some outsider ∧
    knottedCatalog.component? diamond.id = some diamond ∧
    componentOutcome knottedCatalog (.ofWord 1200000) outsider =
      .error (.circularReference ["grade", "perk", "grade"]) ∧
    knottedCatalog.IsCycle ["grade", "perk", "grade"] ∧
    knottedCatalog.Reaches outsider.id "grade" ∧
    ¬ knottedCatalog.LeadsIntoCycle diamond.id ∧
    ∀ path, componentOutcome knottedCatalog (.ofWord 1200000) diamond ≠
      .error (.circularReference path) := by
  have outside : knottedCatalog.component? outsider.id = some outsider := by decide
  have inside : knottedCatalog.component? diamond.id = some diamond := by decide
  have reported : componentOutcome knottedCatalog (.ofWord 1200000) outsider =
      .error (.circularReference ["grade", "perk", "grade"]) := by decide +kernel
  have valued : (componentOutcome knottedCatalog (.ofWord 1200000) diamond).toOption.isSome := by
    decide +kernel
  obtain ⟨cycle, ⟨first, head, way⟩, -⟩ :=
    (component_circular (.ofWord 1200000) outside).1 _ reported
  cases head
  obtain ⟨-, passed, unreported⟩ := component_circular (.ofWord 1200000) inside
  have acyclic : ¬ knottedCatalog.LeadsIntoCycle diamond.id := by
    intro leads
    obtain ⟨error, failed⟩ := passed leads
    rw [failed] at valued
    cases valued
  exact ⟨outside, inside, reported, cycle, way, acyclic, unreported acyclic⟩

end Evaluation

end Payslip
