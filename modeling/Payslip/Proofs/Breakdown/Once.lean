/-
# A breakdown evaluates every component once

A component may be paid under a structure, and many others may refer to it, before or behind its own
turn. `run_once` says that a breakdown evaluates it once all the same, and nothing that neither
belongs to the structure nor is led to from there. A catalog may be cyclic, may have gaps, and may
have several components with one id, of which the first one stands for all.

The catalog is searched for a component at most once, and once more only to find out that a cycle is
closed.
-/

import Payslip.Proofs.Breakdown.Passes
import Payslip.Proofs.Evaluation.Cycle
import Payslip.Proofs.Evaluation.Once

namespace Payslip

open Evaluation

variable {salaryStructure : SalaryStructure} {catalog : Catalog}

/-- The catalog has a component with the id, and it is in the structure or the references lead to it
from there. -/
def SalaryStructure.Involves (salaryStructure : SalaryStructure) (catalog : Catalog)
    (id : String) : Prop :=
  id ∈ catalog.ids ∧ ∃ member, salaryStructure.contains member = true ∧ catalog.Reaches member id

theorem SalaryStructure.closed_involves : Closed catalog (salaryStructure.Involves catalog) := by
  rintro id dependency ⟨-, member, contained, way⟩ depends listed
  exact ⟨listed, member, contained, way.tail depends⟩

theorem SalaryStructure.involves_of_mem {component : Component}
    (included : component ∈ salaryStructure.components catalog) :
    salaryStructure.Involves catalog component.id := by
  obtain ⟨listed, contained⟩ := List.mem_filter.mp included
  exact ⟨List.mem_map_of_mem listed, component.id, contained, .refl⟩

/-- When the components of a structure are in store, all that the structure involves is. -/
theorem Evaluation.Tally.stored_of_involves {run : Run} {id : String}
    (tally : Tally catalog (salaryStructure.Involves catalog) [] run)
    (members : ∀ component ∈ salaryStructure.components catalog,
      run.amounts.get? component.id ≠ none)
    (involved : salaryStructure.Involves catalog id) : run.amounts.get? id ≠ none := by
  obtain ⟨listed, member, contained, way⟩ := involved
  induction way with
  | refl =>
      obtain ⟨component, found⟩ := Catalog.exists_component?_of_mem_ids listed
      obtain rfl := Catalog.id_of_component? found
      exact members component
        (List.mem_filter.mpr ⟨Catalog.mem_of_component? found, contained⟩)
  | tail _ depends ih =>
      have ⟨component, found, _⟩ := depends
      exact tally.closed _ _ (ih (Catalog.mem_ids_of_component? found)) depends listed

namespace Breakdown

theorem evaluateAll_tallies (monthly : Decimal) :
    Meets (Tally catalog (salaryStructure.Involves catalog) [])
      (evaluateAll catalog monthly (salaryStructure.components catalog))
      (fun _ run => Tally catalog (salaryStructure.Involves catalog) [] run ∧
        ∀ component ∈ salaryStructure.components catalog,
          run.amounts.get? component.id ≠ none)
      (BrokenOff catalog) := by
  refine evaluateAll_meets fun done component rest whole => ?_
  have included : component ∈ salaryStructure.components catalog := by simp [whole]
  rcases salaryStructure.first_or_repeated whole with first | ⟨earlier, before, same⟩
  · exact (stored_tallies SalaryStructure.closed_involves first
      (SalaryStructure.involves_of_mem included)).weaken (fun _ given => given.1)
      (fun _ _ tally => tally) (fun _ _ failed => failed)
  · -- an earlier one with the same id is in store, so this one is not evaluated at all
    refine .stored (fun _ _ given _ => given.1) ?_
    intro run ⟨given, unstored⟩
    rw [← same] at unstored
    exact absurd unstored (given.2 earlier before)

/-- A breakdown that is made has evaluated every component that the structure involves once and no
other one, and has searched for none of the catalog twice. One that fails has not evaluated any
component twice, and has searched twice only for the one that closes the cycle. -/
theorem run_once (employee : Employee) (salaryStructure : SalaryStructure) (catalog : Catalog)
    (workingDays : Option UInt32) :
    (∀ breakdown last,
      run employee salaryStructure catalog workingDays = (.ok breakdown, last) →
      (∀ id, salaryStructure.Involves catalog id → last.entries id = 1) ∧
      (∀ id, ¬ salaryStructure.Involves catalog id → last.entries id = 0) ∧
      ∀ id ∈ catalog.ids, last.lookups id ≤ 1) ∧
    ∀ error last,
      run employee salaryStructure catalog workingDays = (.error error, last) →
      BrokenOff catalog error last := by
  have met : Meets _ (evaluate employee salaryStructure catalog workingDays) _ _ :=
    evaluate_meets (evaluateAll_tallies employee.monthlyCtc)
      fun fault _ reached => reached.1.brokenOff (.calculation fault)
  have whole := met (.start ∅) .start
  rw [run]
  constructor
  · intro breakdown last made
    rw [made] at whole
    obtain ⟨tally, members⟩ := whole
    refine ⟨fun id involved => ?_, fun id uninvolved => ?_, fun id listed => ?_⟩
    · rw [tally.entries_eq, if_pos (.inr (tally.stored_of_involves members involved))]
    · rw [tally.entries_eq, if_neg]
      rintro (listed | stored)
      · cases listed
      · exact uninvolved (tally.wanted id stored)
    · exact Nat.le_trans (tally.lookups_le id listed) (tally.entries_le id)
  · intro error last failed
    rw [failed] at whole
    exact whole

theorem run_once_knottedCatalog :
    (∃ breakdown last,
      run ⟨"E1", "Asha", .ofWord 1200000, 0, none⟩ ⟨"std", "Standard", ["total", "hra"]⟩
        knottedCatalog none = (.ok breakdown, last) ∧
      SalaryStructure.Involves ⟨"std", "Standard", ["total", "hra"]⟩ knottedCatalog "basic" ∧
      last.entries "basic" = 1 ∧ last.lookups "basic" ≤ 1) ∧
    ∃ last,
      run ⟨"E1", "Asha", .ofWord 1200000, 0, none⟩ ⟨"std", "Standard", ["bonus"]⟩
        knottedCatalog none = (.error (.circularReference ["grade", "perk", "grade"]), last) ∧
      BrokenOff knottedCatalog (.circularReference ["grade", "perk", "grade"]) last ∧
      last.lookups "grade" = 2 := by
  constructor
  · have valued : (run ⟨"E1", "Asha", .ofWord 1200000, 0, none⟩
        ⟨"std", "Standard", ["total", "hra"]⟩ knottedCatalog none).1.toOption.isSome := by
      decide +kernel
    have involved :
        SalaryStructure.Involves ⟨"std", "Standard", ["total", "hra"]⟩ knottedCatalog "basic" :=
      ⟨by decide, "total", by decide, .single ⟨diamond, by decide, by decide⟩⟩
    obtain ⟨made, -⟩ := run_once ⟨"E1", "Asha", .ofWord 1200000, 0, none⟩
      ⟨"std", "Standard", ["total", "hra"]⟩ knottedCatalog none
    rcases ended : run ⟨"E1", "Asha", .ofWord 1200000, 0, none⟩
      ⟨"std", "Standard", ["total", "hra"]⟩ knottedCatalog none with ⟨error | breakdown, last⟩
    · rw [ended] at valued
      cases valued
    · obtain ⟨once, -, searched⟩ := made breakdown last ended
      exact ⟨breakdown, last, rfl, involved, once "basic" involved, searched "basic" (by decide)⟩
  · have reported : (run ⟨"E1", "Asha", .ofWord 1200000, 0, none⟩ ⟨"std", "Standard", ["bonus"]⟩
        knottedCatalog none).1 = .error (.circularReference ["grade", "perk", "grade"]) := by
      decide +kernel
    have twice : (run ⟨"E1", "Asha", .ofWord 1200000, 0, none⟩ ⟨"std", "Standard", ["bonus"]⟩
        knottedCatalog none).2.lookups "grade" = 2 := by
      decide +kernel
    obtain ⟨-, failed⟩ := run_once ⟨"E1", "Asha", .ofWord 1200000, 0, none⟩
      ⟨"std", "Standard", ["bonus"]⟩ knottedCatalog none
    rcases ended : run ⟨"E1", "Asha", .ofWord 1200000, 0, none⟩ ⟨"std", "Standard", ["bonus"]⟩
      knottedCatalog none with ⟨outcome, last⟩
    rw [ended] at reported twice
    subst reported
    exact ⟨last, rfl, failed _ last ended, twice⟩

end Breakdown

end Payslip
