/-
# The two passes of a breakdown

A breakdown first evaluates all components of a structure, which fills the store, and
then only reads it. This module takes the two passes apart. What the first one keeps
and how it fails is all that later modules have to say about a breakdown within a run:
`evaluate_meets` carries it over the second pass, which changes nothing and can only
go out of range.
-/

import Payslip.Proofs.Breakdown.Amounts
import Payslip.Proofs.Evaluation.Preservation

namespace Payslip

/-- The components of a catalog that belong to a structure, in the order of the catalog. -/
def SalaryStructure.components (salaryStructure : SalaryStructure) (catalog : Catalog) :
    List Component :=
  catalog.filter (salaryStructure.contains ·.id)

/-- Among the components of a structure, each is the first one with its id, or has that id in common
with one in front of it. -/
theorem SalaryStructure.first_or_repeated {salaryStructure : SalaryStructure}
    {done rest : List Component} {component : Component}
    (whole : salaryStructure.components catalog = done ++ component :: rest) :
    catalog.component? component.id = some component ∨
      ∃ earlier ∈ done, earlier.id = component.id := by
  have member : component ∈ salaryStructure.components catalog := by simp [whole]
  have contained : salaryStructure.contains component.id = true :=
    (List.mem_filter.mp member).2
  have same : (salaryStructure.components catalog).find? (·.id == component.id) =
      catalog.component? component.id := by
    rw [components, Catalog.component?, List.find?_filter]
    congr 1
    funext other
    by_cases hit : other.id = component.id
    · simp [hit, contained]
    · simp [hit]
  rw [← same, whole, List.find?_append]
  cases before : done.find? (·.id == component.id) with
  | some earlier =>
      have named := List.find?_some before
      exact .inr ⟨earlier, List.mem_of_find?_eq_some before, by simpa using named⟩
  | none => exact .inl (by simp)

namespace Breakdown

open Evaluation

/-- Evaluates components one after the other and stores their amounts. -/
def evaluateAll (catalog : Catalog) (monthly : Decimal) (components : List Component) :
    Evaluation PUnit :=
  components.forM fun component => do discard (stored catalog monthly component)

/-- Takes the amounts of components from the store, zero where there is none, and reduces and rounds
them. -/
def fetchAll (employee : Employee) (components : List Component) :
    Evaluation (List (Component × Decimal)) :=
  components.mapM fun component => do
    let full ← fetch component.id
    let amount ← MonadExcept.ofExcept (paidAmount employee component (full.getD 0))
    return (component, amount)

/-- The second pass reads the store and leaves the run as it is. -/
theorem runFrom_fetchAll (employee : Employee) (components : List Component) (run : Run) :
    runFrom (fetchAll employee components) run =
      (components.mapM fun component =>
        (paidAmount employee component ((run.amounts.get? component.id).getD 0)).map
          (component, ·), run) := by
  rw [fetchAll] at *
  induction components with
  | nil => rfl
  | cons component rest ih =>
      simp only [List.mapM_cons, runFrom_bind, runFrom_fetch, runFrom_ofExcept, runFrom_pure]
      cases paid : paidAmount employee component ((run.amounts.get? component.id).getD 0) with
      | error error => rfl
      | ok amount =>
          simp only [ih, Except.map]
          rcases List.mapM _ rest with error | others
          · rfl
          · rfl

theorem evaluate_eq (employee : Employee) (salaryStructure : SalaryStructure) (catalog : Catalog)
    (workingDays : Option UInt32) :
    evaluate employee salaryStructure catalog workingDays =
      evaluateAll catalog employee.monthlyCtc (salaryStructure.components catalog) >>= fun _ =>
        fetchAll employee (salaryStructure.components catalog) >>= fun paid =>
          MonadExcept.ofExcept (ofPaid employee salaryStructure.name
            (workingDays.getD defaultWorkingDays) paid) := rfl

variable {employee : Employee} {salaryStructure : SalaryStructure} {catalog : Catalog}
  {workingDays : Option UInt32} {holds : Run → Prop} {failed : PayError → Run → Prop}

theorem fetchAll_meets (components : List Component)
    (faults : ∀ fault run, holds run → failed (.calculation fault) run) :
    Meets holds (fetchAll employee components) (fun _ => holds) failed := by
  intro run start
  have fails : FailsInCalculation (components.mapM fun component =>
      (paidAmount employee component ((run.amounts.get? component.id).getD 0)).map
        (component, ·)) :=
    .mapM fun component _ => (paidAmount_failsInCalculation employee component _).map _
  have reached := Meets.ofExcept fails faults run start
  rw [runFrom_ofExcept] at reached
  rw [runFrom_fetchAll]
  exact reached

/-- A breakdown keeps what its first pass brings about, and fails as that does or out of range. -/
theorem evaluate_meets {before : Run → Prop}
    (pass : Meets before
      (evaluateAll catalog employee.monthlyCtc (salaryStructure.components catalog))
      (fun _ => holds) failed)
    (faults : ∀ fault run, holds run → failed (.calculation fault) run) :
    Meets before (evaluate employee salaryStructure catalog workingDays) (fun _ => holds)
      failed := by
  rw [evaluate_eq]
  apply pass.bind
  intro _
  apply (fetchAll_meets (salaryStructure.components catalog) faults).bind
  intro paid
  exact .ofExcept (ofPaid_failsInCalculation employee salaryStructure.name _ paid) faults

/-- The first pass keeps what each of its steps keeps, and has all components in store behind it. A
step may rely on those in front of it being in store. -/
theorem evaluateAll_meets {monthly : Decimal} {components : List Component}
    (each : ∀ done component rest, components = done ++ component :: rest →
      Meets (fun run => holds run ∧ ∀ earlier ∈ done, run.amounts.get? earlier.id ≠ none)
        (stored catalog monthly component) (fun _ => holds) failed) :
    Meets holds (evaluateAll catalog monthly components)
      (fun _ run => holds run ∧ ∀ component ∈ components, run.amounts.get? component.id ≠ none)
      failed := by
  let keeps (done : List Component) (run : Run) : Prop :=
    holds run ∧ ∀ earlier ∈ done, run.amounts.get? earlier.id ≠ none
  have step : ∀ done component rest, components = done ++ component :: rest →
      Meets (keeps done) (do discard (stored catalog monthly component))
        (fun _ => keeps (done ++ [component])) failed := by
    intro done component rest whole
    have lasting := stored_preserves catalog monthly (.holds_all done) component
    have both := ((each done component rest whole).and lasting).weaken
      (fun _ kept => ⟨kept, kept.2⟩) (fun _ _ reached => reached) (fun _ _ failed => failed.1)
    apply both.discard
    intro amount run ⟨kept, held, stored⟩
    refine ⟨kept, fun earlier behind => ?_⟩
    rcases List.mem_append.mp behind with before | last
    · exact stored earlier before
    · rw [List.mem_singleton.mp last, held]
      exact Option.some_ne_none amount
  refine (Meets.forM step).weaken ?_ (fun _ _ reached => reached) (fun _ _ failed => failed)
  exact fun run start => ⟨start, List.forall_mem_nil _⟩

/-- Nothing but a circular reference or a calculation out of range keeps an employee from having a
breakdown. -/
theorem isOfEvaluation_of_calculate_eq_error {error : PayError}
    (failure : calculate employee salaryStructure catalog workingDays = .error error) :
    error.IsOfEvaluation := by
  have pass : Meets (fun _ => True)
      (evaluateAll catalog employee.monthlyCtc (salaryStructure.components catalog))
      (fun _ _ => True) (fun error _ => error.IsOfEvaluation) := by
    have each : ∀ (done : List Component) component rest,
        salaryStructure.components catalog = done ++ component :: rest →
        Meets (fun run => True ∧ ∀ earlier ∈ done, run.amounts.get? earlier.id ≠ none)
          (stored catalog employee.monthlyCtc component) (fun _ _ => True)
          (fun error _ => error.IsOfEvaluation) := by
      intro _ component _ _
      exact (stored_preserves catalog employee.monthlyCtc .trivial component).weaken
        (fun _ _ => trivial) (fun _ _ _ => trivial) fun _ _ failed => failed.1
    exact (evaluateAll_meets each).weaken (fun _ given => given) (fun _ _ _ => trivial)
      fun _ _ failed => failed
  have reached : Meets _ (evaluate employee salaryStructure catalog workingDays) _ _ :=
    evaluate_meets pass fun fault _ _ => .inr ⟨fault, rfl⟩
  have whole := reached (.start ∅) trivial
  rw [calculate, run] at failure
  rcases ended : runFrom (evaluate employee salaryStructure catalog workingDays) (.start ∅)
    with ⟨outcome, last⟩
  rw [ended] at whole failure
  subst failure
  exact whole

end Breakdown

end Payslip
