/-
# One request for many employees

The service pays employees one by one or all at once, on two paths that share the
calculation of a breakdown and little else. This module proves that they agree: the
answer for a list of employees is what the answers for each of them add up to.
`Consolidates` says how, in four steps of which the first that applies decides:

* an employee who is not accepted spoils the whole list;
* somebody needs a structure;
* a breakdown that fails spoils the list as well;
* the breakdowns of those who are paid are put together, and the others are left out.

Which of several spoilt employees is reported is part of the statement, and so are the
working days that are assumed when the request gives none.
-/

import Payslip.Proofs.Breakdown.Passes
import Payslip.Proofs.Payroll
import Payslip.Proofs.Service.Answer

namespace Payslip.Service

open Payslip.Reading

/-! ## What a list of answers adds up to -/

/-- Every employee is paid or has no structure that exists, and these are the breakdowns of those
who are paid, in their order. -/
structure Pays (answers : List Response) (breakdowns : List Breakdown) : Prop where
  paid_eq : answers.filter (·.status == 200) =
    breakdowns.map fun breakdown => .ofDocument 200 breakdown.document
  others : ∀ answer ∈ answers, answer.status = 200 ∨
    answer.refusesWith 400 "STRUCTURE_NOT_ASSIGNED" = true ∨
    answer.refusesWith 400 "STRUCTURE_NOT_FOUND" = true

/-- The answer for a list of employees is what the answers for each of them add up to. -/
def Consolidates (stamp : Stamp) (workingDays : UInt32) (answers : List Response)
    (whole : Response) : Prop :=
  match answers.find? (·.refusesWith 400 "VALIDATION_ERROR") with
  | some first => whole = first
  | none =>
    if answers.all (·.refusesWith 400 "STRUCTURE_NOT_ASSIGNED") then
      whole = .ofRefusal
        (.badRequest "NO_ELIGIBLE_EMPLOYEES" "No employees with salary structures assigned" none)
    else
      match answers.find? (·.status == 500) with
      | some first => whole = first
      | none => ∃ breakdowns, Pays answers breakdowns ∧
        match runningSum? (breakdowns.map (·.netPay)) with
        | some sum => whole = .ofDocument 200
          (Payroll.document ⟨workingDays, breakdowns, roundToCents sum⟩ stamp.id stamp.date)
        | none => whole.refusesWith 500 "CALCULATION_ERROR" = true

/-! ## One employee -/

/-- The breakdown of an employee who has been accepted. -/
def pay (configuration : Configuration) (workingDays : UInt32) (employee : Employee) :
    Except Refusal Breakdown := do
  let salaryStructure ← (configuration.structureFor employee).mapError .ofError
  (Breakdown.calculate employee salaryStructure configuration.components
    (some workingDays)).mapError .ofError

/-- The answer that an employee gets who has been accepted. -/
def payAnswer (configuration : Configuration) (workingDays : UInt32) (employee : Employee) :
    Response :=
  .ofResult Breakdown.document (pay configuration workingDays employee)

variable {configuration : Configuration} {workingDays : UInt32} {employee : Employee}

theorem payAnswer_of_structureId_eq_none (unassigned : employee.structureId = none) :
    payAnswer configuration workingDays employee =
      .ofRefusal (.ofError (.structureNotAssigned employee.id)) := by
  simp only [payAnswer, pay, Configuration.structureFor, unassigned]
  rfl

theorem payAnswer_of_find?_eq_none {id : String} (assigned : employee.structureId = some id)
    (unknown : configuration.structures.find? (·.id == id) = none) :
    payAnswer configuration workingDays employee =
      .ofRefusal (.ofError (.structureNotFound id)) := by
  simp only [payAnswer, pay, Configuration.structureFor, assigned, Configuration.salaryStructure,
    unknown]
  rfl

theorem payAnswer_of_structureFor? {salaryStructure : SalaryStructure}
    (found : Payroll.structureFor? configuration.structures employee = some salaryStructure) :
    payAnswer configuration workingDays employee =
      .ofResult Breakdown.document
        ((Breakdown.calculate employee salaryStructure configuration.components
          (some workingDays)).mapError .ofError) := by
  rw [Payroll.structureFor?] at found
  obtain ⟨id, assigned, known⟩ := Option.bind_eq_some_iff.mp found
  simp only [payAnswer, pay, Configuration.structureFor, assigned, Configuration.salaryStructure,
    known]
  rfl

/-- What can become of an employee who has been accepted. -/
inductive Fate (configuration : Configuration) (workingDays : UInt32) (employee : Employee) :
    Response → Prop
  | unassigned (none : employee.structureId = none) :
      Fate configuration workingDays employee
        (.ofRefusal (.ofError (.structureNotAssigned employee.id)))
  | unknown (id : String) (assigned : employee.structureId = some id)
      (unknown : Payroll.structureFor? configuration.structures employee = none) :
      Fate configuration workingDays employee (.ofRefusal (.ofError (.structureNotFound id)))
  | paid (salaryStructure : SalaryStructure) (breakdown : Breakdown)
      (found : Payroll.structureFor? configuration.structures employee = some salaryStructure)
      (made : Breakdown.calculate employee salaryStructure configuration.components
        (some workingDays) = .ok breakdown) :
      Fate configuration workingDays employee (.ofDocument 200 breakdown.document)
  | failed (salaryStructure : SalaryStructure) (error : PayError)
      (found : Payroll.structureFor? configuration.structures employee = some salaryStructure)
      (failure : Breakdown.calculate employee salaryStructure configuration.components
        (some workingDays) = .error error) :
      Fate configuration workingDays employee (.ofRefusal (.ofError error))

theorem fate (configuration : Configuration) (workingDays : UInt32) (employee : Employee) :
    Fate configuration workingDays employee
      (payAnswer configuration workingDays employee) := by
  cases assigned : employee.structureId with
  | none =>
      rw [payAnswer_of_structureId_eq_none assigned]
      exact .unassigned assigned
  | some id =>
      cases known : configuration.structures.find? (·.id == id) with
      | none =>
          rw [payAnswer_of_find?_eq_none assigned known]
          exact .unknown id assigned (by simp [Payroll.structureFor?, assigned, known])
      | some salaryStructure =>
          have found : Payroll.structureFor? configuration.structures employee =
              some salaryStructure := by simp [Payroll.structureFor?, assigned, known]
          rw [payAnswer_of_structureFor? found]
          cases outcome : Breakdown.calculate employee salaryStructure configuration.components
              (some workingDays) with
          | ok breakdown => exact .paid salaryStructure breakdown found outcome
          | error error => exact .failed salaryStructure error found outcome

/-- Neither a circular reference nor a calculation out of range is the fault of the request. -/
theorem status_of_calculate_eq_error {salaryStructure : SalaryStructure} {catalog : Catalog}
    {workingDays : Option UInt32} {error : PayError}
    (failure : Breakdown.calculate employee salaryStructure catalog workingDays = .error error) :
    (Response.ofRefusal (.ofError error)).status = 500 := by
  rcases Breakdown.isOfEvaluation_of_calculate_eq_error failure with ⟨cycle, rfl⟩ | ⟨fault, rfl⟩
  · rfl
  · rfl

namespace Fate

variable {answer : Response}

theorem not_invalid (fate : Fate configuration workingDays employee answer) :
    answer.refusesWith 400 "VALIDATION_ERROR" = false := by
  cases fate with
  | unassigned none => simp [Response.refusesWith_ofRefusal, Refusal.ofError, Refusal.badRequest]
  | unknown id assigned unknown =>
      simp [Response.refusesWith_ofRefusal, Refusal.ofError, Refusal.badRequest]
  | paid salaryStructure breakdown found made =>
      apply Response.refusesWith_of_status_ne
      rw [Response.status_ofDocument]
      decide
  | failed salaryStructure error found failure =>
      apply Response.refusesWith_of_status_ne
      rw [status_of_calculate_eq_error failure]
      decide

/-- An employee without a structure is the only one who is told so. -/
theorem refusesWith_notAssigned (fate : Fate configuration workingDays employee answer) :
    answer.refusesWith 400 "STRUCTURE_NOT_ASSIGNED" = employee.structureId.isNone := by
  cases fate with
  | unassigned none =>
      simp [Response.refusesWith_ofRefusal, Refusal.ofError, Refusal.badRequest, none]
  | unknown id assigned unknown =>
      simp [Response.refusesWith_ofRefusal, Refusal.ofError, Refusal.badRequest, assigned]
  | paid salaryStructure breakdown found made =>
      rw [Payroll.isNone_structureId_of_structureFor? found]
      apply Response.refusesWith_of_status_ne
      rw [Response.status_ofDocument]
      decide
  | failed salaryStructure error found failure =>
      rw [Payroll.isNone_structureId_of_structureFor? found]
      apply Response.refusesWith_of_status_ne
      rw [status_of_calculate_eq_error failure]
      decide

end Fate

/-! ## A list of employees -/

namespace Pays

variable {answers : List Response} {breakdowns : List Breakdown}

theorem nil : Pays [] [] where
  paid_eq := rfl
  others _ listed := by cases listed

theorem cons_paid (breakdown : Breakdown) (pays : Pays answers breakdowns) :
    Pays (.ofDocument 200 breakdown.document :: answers) (breakdown :: breakdowns) where
  paid_eq := by
    rw [List.filter_cons_of_pos (by rfl), pays.paid_eq, List.map_cons]
  others := by
    intro answer listed
    rcases List.mem_cons.mp listed with rfl | later
    · exact .inl rfl
    · exact pays.others answer later

theorem cons_unpaid {answer : Response} (pays : Pays answers breakdowns)
    (unpaid : answer.status ≠ 200)
    (refused : answer.refusesWith 400 "STRUCTURE_NOT_ASSIGNED" = true ∨
      answer.refusesWith 400 "STRUCTURE_NOT_FOUND" = true) :
    Pays (answer :: answers) breakdowns where
  paid_eq := by
    rw [List.filter_cons_of_neg (by simpa using unpaid), pays.paid_eq]
  others := by
    intro other listed
    rcases List.mem_cons.mp listed with rfl | later
    · exact .inr refused
    · exact pays.others other later

end Pays

/-- Breakdowns agree with answers: the first failure is the first answer with status 500, and if
there is none the breakdowns are those that the answers show. -/
def Tallies (answers : List Response) : Except PayError (List Breakdown) → Prop
  | .ok breakdowns => answers.find? (·.status == 500) = none ∧ Pays answers breakdowns
  | .error error => answers.find? (·.status == 500) = some (.ofRefusal (.ofError error))

namespace Tallies

variable {answers : List Response} {outcome : Except PayError (List Breakdown)}

theorem cons_paid (breakdown : Breakdown) (tallies : Tallies answers outcome) :
    Tallies (.ofDocument 200 breakdown.document :: answers)
      (do return breakdown :: (← outcome)) := by
  have passed : (Response.ofDocument 200 breakdown.document :: answers).find? (·.status == 500) =
      answers.find? (·.status == 500) := List.find?_cons_of_neg (by simp)
  cases outcome with
  | ok breakdowns => exact ⟨passed.trans tallies.1, tallies.2.cons_paid breakdown⟩
  | error error => exact passed.trans tallies

theorem cons_unpaid {refusal : Refusal} (tallies : Tallies answers outcome)
    (status : refusal.status = 400) (code : refusal.body.code = "STRUCTURE_NOT_ASSIGNED" ∨
      refusal.body.code = "STRUCTURE_NOT_FOUND") :
    Tallies (.ofRefusal refusal :: answers) outcome := by
  have passed : (Response.ofRefusal refusal :: answers).find? (·.status == 500) =
      answers.find? (·.status == 500) := List.find?_cons_of_neg (by simp [status])
  have refused : (Response.ofRefusal refusal).refusesWith 400 "STRUCTURE_NOT_ASSIGNED" = true ∨
      (Response.ofRefusal refusal).refusesWith 400 "STRUCTURE_NOT_FOUND" = true := by
    simpa [Response.refusesWith_ofRefusal, status] using code
  cases outcome with
  | ok breakdowns =>
      exact ⟨passed.trans tallies.1, tallies.2.cons_unpaid (by simp [status]) refused⟩
  | error error => exact passed.trans tallies

end Tallies

/-- The breakdowns of all employees agree with the answers that each of them gets. -/
theorem payAll_tallies (configuration : Configuration) (workingDays : UInt32)
    (accepted : List Employee) :
    Tallies (accepted.map (payAnswer configuration workingDays))
      (Payroll.payAll accepted configuration.structures configuration.components
        workingDays) := by
  induction accepted with
  | nil => exact ⟨rfl, .nil⟩
  | cons employee rest ih =>
      have fate := fate configuration workingDays employee
      rw [List.map_cons]
      generalize payAnswer configuration workingDays employee = answer at fate
      cases fate with
      | unassigned none =>
          rw [Payroll.payAll_cons_of_eq_none (by simp [Payroll.structureFor?, none])]
          exact ih.cons_unpaid rfl (.inl rfl)
      | unknown id assigned unknown =>
          rw [Payroll.payAll_cons_of_eq_none unknown]
          exact ih.cons_unpaid rfl (.inr rfl)
      | paid salaryStructure breakdown found made =>
          rw [Payroll.payAll_cons_of_eq_some found, made, Outcome.ok_bind]
          exact ih.cons_paid breakdown
      | failed salaryStructure error found failure =>
          rw [Payroll.payAll_cons_of_eq_some found, failure, Outcome.error_bind]
          apply List.find?_cons_of_pos
          rw [status_of_calculate_eq_error failure]
          rfl

/-- No employee who has been accepted is told to be invalid. -/
theorem find?_invalid_eq_none (configuration : Configuration) (workingDays : UInt32)
    (accepted : List Employee) :
    (accepted.map (payAnswer configuration workingDays)).find?
      (·.refusesWith 400 "VALIDATION_ERROR") = none := by
  rw [List.find?_eq_none]
  intro answer listed
  obtain ⟨employee, -, rfl⟩ := List.mem_map.mp listed
  rw [(fate configuration workingDays employee).not_invalid]
  exact Bool.false_ne_true

theorem all_notAssigned_eq (configuration : Configuration) (workingDays : UInt32)
    (accepted : List Employee) :
    (accepted.map (payAnswer configuration workingDays)).all
      (·.refusesWith 400 "STRUCTURE_NOT_ASSIGNED") = accepted.all (·.structureId.isNone) := by
  rw [List.all_map]
  congr 1
  funext employee
  exact (fate configuration workingDays employee).refusesWith_notAssigned

/-- The payroll of employees who have been accepted consolidates the answers that each of them
gets. -/
theorem payroll_consolidates (configuration : Configuration) (stamp : Stamp)
    (workingDays : UInt32) (accepted : List Employee) :
    Consolidates stamp workingDays (accepted.map (payAnswer configuration workingDays))
      (.ofResult (·.document stamp.id stamp.date)
        ((Payroll.calculate accepted configuration.structures configuration.components
          (some workingDays)).mapError .ofError)) := by
  rw [Consolidates, find?_invalid_eq_none, all_notAssigned_eq]
  by_cases unassigned : accepted.all (·.structureId.isNone) = true
  · rw [if_pos unassigned, Payroll.calculate_of_all_isNone unassigned]
    rfl
  · rw [if_neg unassigned, Payroll.calculate_of_not_all_isNone unassigned, Option.getD_some]
    have tallies := payAll_tallies configuration workingDays accepted
    cases made : Payroll.payAll accepted configuration.structures configuration.components
        workingDays with
    | error error =>
        rw [made] at tallies
        have first : List.find? _ _ = some _ := tallies
        rw [first]
        rfl
    | ok breakdowns =>
        rw [made] at tallies
        rw [tallies.1]
        refine ⟨breakdowns, tallies.2, ?_⟩
        rw [Outcome.ok_bind, Payroll.ofBreakdowns]
        cases summed : runningSum? (breakdowns.map (·.netPay)) with
        | some sum =>
            rw [sumToCents_eq_ok_iff.mpr ⟨sum, summed, rfl⟩]
            rfl
        | none =>
            obtain ⟨fault, beyond⟩ := exists_fault_of_runningSum?_eq_none summed
            rw [beyond]
            rfl

/-! ## Accepting employees -/

/-- The answer that an employee gets who is as a request gives it. -/
def employeeAnswer (configuration : Configuration) (workingDays : Option UInt32)
    (employee : Employee) : Response :=
  .ofResult Breakdown.document
    (BreakdownRequest.fulfil ⟨employee, workingDays⟩ configuration)

theorem employeeAnswer_of_error {workingDays : Option UInt32} {refusal : Refusal}
    (refused : admitted employee = .error refusal) :
    employeeAnswer configuration workingDays employee = .ofRefusal refusal := by
  simp only [employeeAnswer, BreakdownRequest.fulfil, refused, Outcome.error_bind]
  rfl

theorem employeeAnswer_of_ok {workingDays : Option UInt32} {accepted : Employee}
    (admits : admitted employee = .ok accepted) :
    employeeAnswer configuration workingDays employee =
      payAnswer configuration (workingDays.getD configuration.metadata.workingDays) accepted := by
  simp only [employeeAnswer, BreakdownRequest.fulfil, admits, Outcome.ok_bind]
  rfl

theorem refusesWith_of_admitted_eq_error {refusal : Refusal}
    (refused : admitted employee = .error refusal) :
    (Response.ofRefusal refusal).refusesWith 400 "VALIDATION_ERROR" = true := by
  rw [admitted] at refused
  cases accepted : accept employee with
  | ok value =>
      rw [accepted] at refused
      cases refused
  | error fault =>
      rw [accepted] at refused
      cases refused
      rfl

/-- The first employee of a list who is not accepted gets the first answer that says so. -/
theorem find?_invalid_of_mapM_eq_error {workingDays : Option UInt32} {employees : List Employee}
    {refusal : Refusal} (refused : employees.mapM admitted = .error refusal) :
    (employees.map (employeeAnswer configuration workingDays)).find?
      (·.refusesWith 400 "VALIDATION_ERROR") = some (.ofRefusal refusal) := by
  induction employees with
  | nil => cases refused
  | cons employee rest ih =>
      rw [List.mapM_cons] at refused
      rw [List.map_cons]
      cases first : admitted employee with
      | error other =>
          rw [first] at refused
          cases refused
          rw [employeeAnswer_of_error first]
          exact List.find?_cons_of_pos (refusesWith_of_admitted_eq_error first)
      | ok accepted =>
          have later : rest.mapM admitted = .error refusal := by
            rw [first, Outcome.ok_bind] at refused
            cases others : rest.mapM admitted with
            | ok value =>
                rw [others] at refused
                cases refused
            | error other =>
                rw [others] at refused
                cases refused
                rfl
          rw [employeeAnswer_of_ok first, List.find?_cons_of_neg]
          · exact ih later
          · rw [(fate configuration _ accepted).not_invalid]
            exact Bool.false_ne_true

/-- Employees who are all accepted get the answers of accepted employees. -/
theorem map_employeeAnswer_of_mapM_eq_ok {workingDays : Option UInt32}
    {employees accepted : List Employee} (admits : employees.mapM admitted = .ok accepted) :
    employees.map (employeeAnswer configuration workingDays) =
      accepted.map (payAnswer configuration
        (workingDays.getD configuration.metadata.workingDays)) := by
  induction employees generalizing accepted with
  | nil =>
      cases admits
      rfl
  | cons employee rest ih =>
      rw [List.mapM_cons] at admits
      obtain ⟨first, here, onward⟩ := Outcome.bind_eq_ok_iff.mp admits
      obtain ⟨others, later, whole⟩ := Outcome.bind_eq_ok_iff.mp onward
      cases whole
      rw [List.map_cons, List.map_cons, employeeAnswer_of_ok here, ih later]

/-- The answer to one request for many employees consolidates the answers to a request for each of
them. -/
theorem answer_consolidates (configuration : Configuration) (stamp : Stamp)
    (workingDays : Option UInt32) (asked : List (Employee × Request)) (whole : Request)
    (each : ∀ one ∈ asked, one.2.AsksBreakdown one.1 workingDays)
    (all : whole.AsksPayroll (asked.map Prod.fst) workingDays) :
    Consolidates stamp (workingDays.getD configuration.metadata.workingDays)
      (asked.map fun one => answer configuration stamp one.2)
      (answer configuration stamp whole) := by
  have answers : (asked.map fun one => answer configuration stamp one.2) =
      (asked.map Prod.fst).map (employeeAnswer configuration workingDays) := by
    rw [List.map_map]
    exact List.map_congr_left fun one listed => answer_of_asksBreakdown (each one listed)
  rw [answers, answer_of_asksPayroll all]
  generalize asked.map Prod.fst = employees
  rw [PayrollRequest.fulfil]
  cases admits : employees.mapM admitted with
  | error refusal =>
      rw [Consolidates, find?_invalid_of_mapM_eq_error admits]
      rfl
  | ok accepted =>
      rw [map_employeeAnswer_of_mapM_eq_ok admits]
      exact payroll_consolidates configuration stamp _ accepted

/-- A request that posts a text as JSON. -/
def posted (target text : String) : Request :=
  ⟨"POST", target, some "application/json", text.toUTF8.toList⟩

/-- A structure of one component that everybody has who is paid under it. -/
def plainConfiguration : Configuration where
  metadata := ⟨"Plain", "1", "INR", 22⟩
  components := [.percentage "basic" "Basic" .earning (.ofWord 40) .ctc]
  structures := [⟨"std", "Standard", ["basic"]⟩]

/-- Employees of whom the first is paid, the second is without a structure and the third has one
that does not exist, each with a request for a breakdown. -/
def mixedRequests : List (Employee × Request) :=
  [(⟨"a", "Asha", .ofWord 60000, 4, some "std"⟩,
      posted "/breakdown" "[[\"a\",\"Asha\",60000,4,\"std\"]]"),
    (⟨"b", "Ravi", .ofWord 90000, 0, none⟩, posted "/breakdown" "[[\"b\",\"Ravi\",90000]]"),
    (⟨"c", "Mira", .ofWord 75000, 0, some "gone"⟩,
      posted "/breakdown" "[[\"c\",\"Mira\",75000,0,\"gone\"]]")]

/-- The same employees in one request for a payroll. -/
def mixedRequest : Request :=
  posted "/payroll-run" <|
    "[[[\"a\",\"Asha\",60000,4,\"std\"],[\"b\",\"Ravi\",90000]," ++
      "[\"c\",\"Mira\",75000,0,\"gone\"]]]"

theorem answer_consolidates_mixedRequests :
    Consolidates ⟨"id", "date"⟩ 22
      (mixedRequests.map fun one => answer plainConfiguration ⟨"id", "date"⟩ one.2)
      (answer plainConfiguration ⟨"id", "date"⟩ mixedRequest) := by
  refine answer_consolidates plainConfiguration ⟨"id", "date"⟩ none mixedRequests _ ?_ ?_
  · intro one listed
    have read : ∀ one ∈ mixedRequests,
        (one.2.read BreakdownRequest.read).toOption = some ⟨one.1, none⟩ := by decide +kernel
    have shape : ∀ one ∈ mixedRequests, one.2.method = "POST" ∧
        Endpoint.ofPath? (pathOf one.2.target) = some .breakdown := by decide +kernel
    obtain ⟨method, endpoint⟩ := shape one listed
    exact ⟨method, endpoint, Outcome.eq_ok_of_toOption_eq_some (read one listed)⟩
  · refine ⟨rfl, by decide +kernel, Outcome.eq_ok_of_toOption_eq_some ?_⟩
    decide +kernel

end Payslip.Service
