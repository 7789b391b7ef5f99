/-
# What cannot happen over a validated catalog

Over a sound catalog there is no circular reference to run into and no reference that
leads nowhere, whoever is paid, under which structure and in which order. A calculation
can only go out of range.

The later ones of several components with one id are the delicate case: they need not
settle together with what they refer to. A breakdown never evaluates them, because the
first one stands in front of them in every structure and is in store by then.
-/

import Payslip.Proofs.Breakdown.Passes
import Payslip.Proofs.Payroll
import Payslip.Proofs.Validation.Settling

namespace Payslip

open Evaluation

/-- Only components of the catalog were asked for. -/
def AsksExisting (catalog : Catalog) (run : Run) : Prop :=
  ∀ inProgress id, .asked inProgress id ∈ run.trace → catalog.component? id ≠ none

/-- A calculation went out of range, and before that only components of the catalog were asked
for. -/
def OutOfRange (catalog : Catalog) (error : PayError) (run : Run) : Prop :=
  (∃ fault, error = .calculation fault) ∧ AsksExisting catalog run

variable {catalog : Catalog} {monthly : Decimal}

namespace AsksExisting

variable {run : Run} {inProgress : List String} {id : String}

theorem asked (existing : AsksExisting catalog run) (present : catalog.component? id ≠ none) :
    AsksExisting catalog (run.noted (.asked inProgress id)) := by
  intro chain other listed
  rcases List.mem_cons.mp listed with same | before
  · cases same
    exact present
  · exact existing chain other before

theorem searched (existing : AsksExisting catalog run) (id : String) :
    AsksExisting catalog (run.noted (.searched id)) := by
  intro chain other listed
  rcases List.mem_cons.mp listed with same | before
  · cases same
  · exact existing chain other before

theorem entered (existing : AsksExisting catalog run) (inProgress : List String) :
    AsksExisting catalog (run.noted (.entered inProgress)) := by
  intro chain other listed
  rcases List.mem_cons.mp listed with same | before
  · cases same
  · exact existing chain other before

end AsksExisting

namespace Catalog.IsSound

/-- The value of a component of a sound catalog is found or out of range, when the amounts of those
that it depends on are. -/
theorem value_meets (sound : catalog.IsSound) {entry : Component} (listed : entry ∈ catalog)
    {give : String → Evaluation (Option Decimal)}
    (gives : ∀ dependency ∈ entry.dependencies, catalog.component? dependency ≠ none →
      Meets (AsksExisting catalog) (give dependency) (fun _ => AsksExisting catalog)
        (OutOfRange catalog)) :
    Meets (AsksExisting catalog) (entry.value monthly give) (fun _ => AsksExisting catalog)
      (OutOfRange catalog) := by
  have told : ∀ dependency ∈ entry.dependencies,
      Meets (AsksExisting catalog) (give dependency) (fun _ run => True ∧ AsksExisting catalog run)
        (OutOfRange catalog) := by
    intro dependency needed
    have present := sound.exists_of_listed entry listed dependency needed
    exact (gives dependency needed present).weaken (fun _ existing => existing)
      (fun _ _ existing => ⟨trivial, existing⟩) fun _ _ failed => failed
  have value := Meets.value entry monthly told fun fault _ existing => ⟨⟨fault, rfl⟩, existing⟩
  exact value.weaken (fun _ existing => existing) (fun _ _ reached => reached.2)
    fun _ _ failed => failed

/-- An amount that is asked for on a way along the references is found or out of range. -/
theorem amount?_meets (sound : catalog.IsSound) (inProgress : List String) (id : String)
    (lead : catalog.LeadTo ∅ inProgress id) (present : catalog.component? id ≠ none) :
    Meets (AsksExisting catalog) (amount? catalog monthly inProgress id)
      (fun _ => AsksExisting catalog) (OutOfRange catalog) := by
  induction inProgress, id using catalog.followReferences with
  | _ inProgress id deeper =>
      refine .amount? ?stored ?missing ?circular ?evaluated
      case stored => exact fun _ _ existing _ => existing.asked present
      case missing => exact fun _ _ _ absent => absurd absent present
      case circular =>
        intro _ _ _ _ _ met
        exact absurd met (lead.not_mem (sound.settles id) rfl)
      case evaluated =>
        intro entry found fresh
        have value : Meets (AsksExisting catalog)
            (entry.value monthly (amount? catalog monthly (id :: inProgress)))
            (fun _ => AsksExisting catalog) (OutOfRange catalog) := by
          apply sound.value_meets (mem_of_component? found)
          intro dependency needed present
          have further := lead.cons ⟨rfl, entry, found, needed⟩
          exact deeper entry found fresh dependency further present
        refine value.weaken ?_ (fun _ _ existing => existing) fun _ _ failed => failed
        rintro _ ⟨start, existing, -, rfl⟩
        exact ((existing.asked present).searched id).entered (id :: inProgress)

/-- So is the value of the first component with its id. -/
theorem component_meets (sound : catalog.IsSound) {entry : Component}
    (found : catalog.component? entry.id = some entry) :
    Meets (AsksExisting catalog) (component catalog monthly entry)
      (fun _ => AsksExisting catalog) (OutOfRange catalog) := by
  refine .component (fun _ existing => existing.entered [entry.id]) ?_
  apply sound.value_meets (mem_of_component? found)
  intro dependency needed present
  exact sound.amount?_meets [entry.id] dependency (.of_component? found needed) present

end Catalog.IsSound

namespace Breakdown

/-- The first pass over a sound catalog. -/
theorem evaluateAll_meets_of_isSound (sound : catalog.IsSound)
    (salaryStructure : SalaryStructure) :
    Meets (AsksExisting catalog)
      (evaluateAll catalog monthly (salaryStructure.components catalog))
      (fun _ => AsksExisting catalog) (OutOfRange catalog) := by
  have each : ∀ done component rest,
      salaryStructure.components catalog = done ++ component :: rest →
      Meets (fun run => AsksExisting catalog run ∧
          ∀ earlier ∈ done, run.amounts.get? earlier.id ≠ none)
        (stored catalog monthly component) (fun _ => AsksExisting catalog)
        (OutOfRange catalog) := by
    intro done component rest whole
    refine .stored (fun _ _ kept _ => kept.1) ?_
    rcases salaryStructure.first_or_repeated whole with first | ⟨earlier, before, same⟩
    · exact (sound.component_meets first).weaken (fun _ given => given.1.1)
        (fun _ _ existing => existing) fun _ _ failed => failed
    · -- an earlier one with the same id is in store, so this one is not evaluated at all
      intro run ⟨kept, unstored⟩
      rw [← same] at unstored
      exact absurd unstored (kept.2 earlier before)
  exact (evaluateAll_meets each).weaken (fun _ existing => existing)
    (fun _ _ reached => reached.1) fun _ _ failed => failed

/-- Whoever is paid, under whatever structure: over a sound catalog only components that exist are
asked for, and a breakdown can only go out of range. -/
theorem run_of_isSound (sound : catalog.IsSound) (employee : Employee)
    (salaryStructure : SalaryStructure) (workingDays : Option UInt32) :
    FailsInCalculation (calculate employee salaryStructure catalog workingDays) ∧
      AsksExisting catalog (run employee salaryStructure catalog workingDays).2 := by
  have met : Meets _ (evaluate employee salaryStructure catalog workingDays) _ _ :=
    evaluate_meets (evaluateAll_meets_of_isSound sound salaryStructure) fun fault _ existing =>
      ⟨⟨fault, rfl⟩, existing⟩
  have reached := met (.start ∅) fun _ _ listed => by cases listed
  rw [calculate, run]
  rcases ended : runFrom (evaluate employee salaryStructure catalog workingDays) (.start ∅)
    with ⟨error | breakdown, last⟩
  · rw [ended] at reached
    obtain ⟨⟨fault, rfl⟩, existing⟩ := reached
    exact ⟨.fault fault, existing⟩
  · rw [ended] at reached
    exact ⟨.ok breakdown, reached⟩

end Breakdown

/-- Over a sound catalog a payroll lacks an employee to be paid or goes out of range, if it is not
made. -/
theorem Payroll.calculate_of_isSound (sound : catalog.IsSound) (employees : List Employee)
    (structures : List SalaryStructure) (workingDays : Option UInt32) {error : PayError}
    (failure : Payroll.calculate employees structures catalog workingDays = .error error) :
    error = .noEligibleEmployees ∨ ∃ fault, error = .calculation fault := by
  by_cases unassigned : employees.all (·.structureId.isNone) = true
  · rw [calculate_of_all_isNone unassigned] at failure
    cases failure
    exact .inl rfl
  · rw [calculate_of_not_all_isNone unassigned] at failure
    have made : FailsInCalculation (payAll employees structures catalog
        (workingDays.getD defaultWorkingDays)) :=
      .mapM fun pay _ => (Breakdown.run_of_isSound sound pay.1 pay.2 _).1
    have whole := made.bind (ofBreakdowns_failsInCalculation (workingDays.getD defaultWorkingDays))
    exact .inr (whole error failure)

end Payslip
