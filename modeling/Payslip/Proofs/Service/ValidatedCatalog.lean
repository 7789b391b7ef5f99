/-
# Serving a validated catalog

What the strict check of a catalog is for: once it has passed, no breakdown, no payroll
and no request meets a circular reference or a reference that leads nowhere. The check
has seen neither the employees nor the structures, and a single cost to company.
-/

import Payslip.Proofs.Service.Answer
import Payslip.Proofs.Validation.Safety

namespace Payslip.Service

open Evaluation

variable {catalog : Catalog}

theorem neverRefuses_structureFor (configuration : Configuration) (employee : Employee) :
    NeverRefuses "CIRCULAR_REFERENCE"
      ((configuration.structureFor employee).mapError .ofError) := by
  apply NeverRefuses.mapError_ofError
  intro error failure
  unfold Configuration.structureFor Configuration.salaryStructure at failure
  split at failure
  · cases failure
    show "STRUCTURE_NOT_ASSIGNED" ≠ "CIRCULAR_REFERENCE"
    decide
  · split at failure
    · cases failure
    · cases failure
      show "STRUCTURE_NOT_FOUND" ≠ "CIRCULAR_REFERENCE"
      decide

section Sound

variable {configuration : Configuration}

theorem code_calculation_ne (fault : CalculationFault) :
    (Refusal.ofError (.calculation fault)).body.code ≠ "CIRCULAR_REFERENCE" := by
  show "CALCULATION_ERROR" ≠ "CIRCULAR_REFERENCE"
  decide

theorem neverRefuses_breakdown (sound : configuration.components.IsSound) (request : Request) :
    NeverRefuses "CIRCULAR_REFERENCE" (breakdown configuration request) := by
  apply (neverRefuses_read request _).bind
  intro asked
  apply (neverRefuses_admitted asked.employee).bind
  intro employee
  apply (neverRefuses_structureFor configuration employee).bind
  intro salaryStructure
  apply NeverRefuses.mapError_ofError
  intro error failure
  obtain ⟨fails, -⟩ := Breakdown.run_of_isSound sound employee salaryStructure
    (some (asked.workingDays.getD configuration.metadata.workingDays))
  obtain ⟨fault, rfl⟩ := fails error failure
  exact code_calculation_ne fault

theorem neverRefuses_payroll (sound : configuration.components.IsSound) (request : Request) :
    NeverRefuses "CIRCULAR_REFERENCE" (payroll configuration request) := by
  apply (neverRefuses_read request _).bind
  intro asked
  apply (NeverRefuses.mapM asked.employees neverRefuses_admitted).bind
  intro employees
  apply NeverRefuses.mapError_ofError
  intro error failure
  rcases Payroll.calculate_of_isSound sound employees _ _ failure with rfl | ⟨fault, rfl⟩
  · decide
  · exact code_calculation_ne fault

/-- Over a sound catalog no request is answered with a circular reference. -/
theorem code?_answer_ne_of_isSound (sound : configuration.components.IsSound) (stamp : Stamp)
    (request : Request) :
    (answer configuration stamp request).code? ≠ some "CIRCULAR_REFERENCE" := by
  have refused (allow : String) :
      (Response.methodNotAllowed allow).code? ≠ some "CIRCULAR_REFERENCE" := by
    simp [Response.code?, Response.methodNotAllowed]
  rw [answer]
  cases Endpoint.ofPath? (pathOf request.target) with
  | none => simp [Response.code?, Response.notFound]
  | some endpoint =>
      cases endpoint with
      | breakdown =>
          dsimp only
          split
          · exact (neverRefuses_breakdown sound request).code?_ofResult_ne field?_code_breakdown
          · exact refused _
      | payroll =>
          dsimp only
          split
          · exact (neverRefuses_payroll sound request).code?_ofResult_ne
              fun made => field?_code_payroll made stamp.id stamp.date
          · exact refused _
      | components =>
          dsimp only
          split
          · rw [Response.code?_ofDocument_of_field?_eq_none (field?_code_listing configuration)]
            simp
          · split
            · simp [Response.code?, Response.headOnly]
            · exact refused _

end Sound

/-- Once a catalog is accepted, a breakdown under any structure can only go out of range, and never
asks for a component without getting an amount or failing; a payroll can only lack an employee to be
paid or go out of range; and no request to a service with this catalog is answered with a circular
reference. -/
theorem never_circular_of_validate (validated : catalog.validate = .ok ()) :
    (∀ employee salaryStructure workingDays,
      FailsInCalculation (Breakdown.calculate employee salaryStructure catalog workingDays) ∧
      ∀ inProgress id,
        .asked inProgress id ∈
          (Breakdown.run employee salaryStructure catalog workingDays).2.trace →
        catalog.component? id ≠ none ∧
          ∀ monthly run, (runFrom (amount? catalog monthly inProgress id) run).1 ≠ .ok none) ∧
    (∀ employees structures workingDays error,
      Payroll.calculate employees structures catalog workingDays = .error error →
      error = .noEligibleEmployees ∨ ∃ fault, error = .calculation fault) ∧
    ∀ configuration stamp request, configuration.components = catalog →
      (answer configuration stamp request).code? ≠ some "CIRCULAR_REFERENCE" := by
  have sound := Catalog.isSound_of_validate validated
  refine ⟨?_, ?_, ?_⟩
  · intro employee salaryStructure workingDays
    obtain ⟨fails, existing⟩ :=
      Breakdown.run_of_isSound sound employee salaryStructure workingDays
    refine ⟨fails, fun inProgress id asked => ?_⟩
    have present := existing inProgress id asked
    exact ⟨present, amount?_ne_none present⟩
  · intro employees structures workingDays error failure
    exact Payroll.calculate_of_isSound sound employees structures workingDays failure
  · rintro configuration stamp request rfl
    exact code?_answer_ne_of_isSound sound stamp request

/-- Two components share an id, and a formula refers to it from between them. -/
def repeatedCatalog : Catalog :=
  [.percentage "basic" "Basic" .earning (.ofWord 40) .ctc,
    .formula "hra" "House Rent" .earning [.percentage (.ofWord 50) (.component "basic")],
    .percentage "basic" "Basic, revised" .earning (.ofWord 20) (.component "hra"),
    .percentage "fund" "Fund" .deduction (.ofWord 12) (.component "basic")]

theorem never_circular_of_validate_repeatedCatalog :
    repeatedCatalog.validate = .ok () ∧
      FailsInCalculation (Breakdown.calculate ⟨"E1", "Asha", .ofWord 1000000, 4, none⟩
        ⟨"std", "Standard", ["hra", "basic", "fund"]⟩ repeatedCatalog none) := by
  have validated : repeatedCatalog.validate = .ok () :=
    Outcome.eq_ok_of_toOption_eq_some (by decide +kernel)
  exact ⟨validated, ((never_circular_of_validate validated).1 _ _ _).1⟩

end Payslip.Service
