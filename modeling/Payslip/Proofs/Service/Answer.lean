/-
# What an answer shows

A client sees of an answer its status and, when it refuses, the code in its body. This
module reads both off an answer, says what an answer is to a request whose body has
been read, and collects which codes the steps behind a request refuse with.
-/

import Payslip.Proofs.Outcome
import Payslip.Service.Exchange

namespace Payslip.Service

open Payslip.Reading

namespace Response

/-- The code of a refusal, if the body has one. -/
def code? (response : Response) : Option String :=
  match response.body.bind (·.field? "code") with
  | some (.text code) => code
  | _ => none

/-- The answer refuses with this status and code. -/
def refusesWith (status : Nat) (code : String) (response : Response) : Bool :=
  response.status == status && response.code? == some code

@[simp]
theorem status_ofRefusal (refusal : Refusal) : (ofRefusal refusal).status = refusal.status := rfl

@[simp]
theorem code?_ofRefusal (refusal : Refusal) :
    (ofRefusal refusal).code? = some refusal.body.code := rfl

@[simp]
theorem status_ofDocument (status : Nat) (body : Document) :
    (ofDocument status body).status = status := rfl

theorem refusesWith_ofRefusal (status : Nat) (code : String) (refusal : Refusal) :
    (ofRefusal refusal).refusesWith status code =
      (refusal.status == status && refusal.body.code == code) := by
  simp [refusesWith]

theorem refusesWith_of_status_ne {status : Nat} {code : String} {response : Response}
    (other : response.status ≠ status) : response.refusesWith status code = false := by
  simp [refusesWith, other]

theorem code?_ofDocument_of_field?_eq_none {status : Nat} {body : Document}
    (absent : body.field? "code" = none) : (ofDocument status body).code? = none := by
  simp [code?, ofDocument, absent]

end Response

theorem field?_code_breakdown (breakdown : Breakdown) :
    breakdown.document.field? "code" = none := rfl

theorem field?_code_payroll (payroll : Payroll) (id date : String) :
    (payroll.document id date).field? "code" = none := rfl

theorem field?_code_listing (configuration : Configuration) :
    (listing configuration).field? "code" = none := rfl

/-! ## Requests that have been read -/

/-- The request asks for the breakdown of this employee, as the request gives it. -/
structure Request.AsksBreakdown (request : Request) (employee : Employee)
    (workingDays : Option UInt32) : Prop where
  method_eq : request.method = "POST"
  endpoint_eq : Endpoint.ofPath? (pathOf request.target) = some .breakdown
  read_eq : request.read BreakdownRequest.read = .ok ⟨employee, workingDays⟩

/-- The request asks for a payroll of these employees, as the request gives them. -/
structure Request.AsksPayroll (request : Request) (employees : List Employee)
    (workingDays : Option UInt32) : Prop where
  method_eq : request.method = "POST"
  endpoint_eq : Endpoint.ofPath? (pathOf request.target) = some .payroll
  read_eq : request.read PayrollRequest.read = .ok ⟨employees, workingDays⟩

variable {configuration : Configuration} {stamp : Stamp} {request : Request}
  {workingDays : Option UInt32}

theorem answer_of_asksBreakdown {employee : Employee}
    (asks : request.AsksBreakdown employee workingDays) :
    answer configuration stamp request =
      .ofResult Breakdown.document
        (BreakdownRequest.fulfil ⟨employee, workingDays⟩ configuration) := by
  simp only [answer, asks.endpoint_eq, asks.method_eq, if_true, breakdown, asks.read_eq,
    Outcome.ok_bind]

theorem answer_of_asksPayroll {employees : List Employee}
    (asks : request.AsksPayroll employees workingDays) :
    answer configuration stamp request =
      .ofResult (·.document stamp.id stamp.date)
        (PayrollRequest.fulfil ⟨employees, workingDays⟩ configuration) := by
  simp only [answer, asks.endpoint_eq, asks.method_eq, if_true, payroll, asks.read_eq,
    Outcome.ok_bind]

/-! ## Codes that do not occur -/

/-- If there is no result, the refusal has another code. -/
def NeverRefuses {α : Type} (code : String) (outcome : Except Refusal α) : Prop :=
  ∀ refusal, outcome = .error refusal → refusal.body.code ≠ code

namespace NeverRefuses

variable {α β : Type} {code : String}

theorem ok (a : α) : NeverRefuses code (.ok a) := by
  intro refusal failed
  cases failed

theorem error {refusal : Refusal} (other : refusal.body.code ≠ code) :
    NeverRefuses code (.error refusal : Except Refusal α) := by
  intro same failed
  cases failed
  exact other

theorem bind {outcome : Except Refusal α} {next : α → Except Refusal β}
    (first : NeverRefuses code outcome) (later : ∀ a, NeverRefuses code (next a)) :
    NeverRefuses code (outcome >>= next) := by
  cases outcome with
  | ok a => exact later a
  | error refusal => exact .error (first refusal rfl)

theorem mapM {step : α → Except Refusal β} (items : List α)
    (each : ∀ item, NeverRefuses code (step item)) : NeverRefuses code (items.mapM step) := by
  induction items with
  | nil => exact .ok []
  | cons item rest ih =>
      rw [List.mapM_cons]
      exact (each item).bind fun first => ih.bind fun others => .ok (first :: others)

/-- A failed calculation is refused with the code of its error. -/
theorem mapError_ofError {outcome : Except PayError α}
    (errors : ∀ error, outcome = .error error → (Refusal.ofError error).body.code ≠ code) :
    NeverRefuses code (outcome.mapError .ofError) := by
  cases outcome with
  | ok a => exact .ok a
  | error error => exact .error (errors error rfl)

/-- An answer shows no code but that of its refusal. -/
theorem code?_ofResult_ne {document : α → Document} {outcome : Except Refusal α}
    (never : NeverRefuses code outcome) (absent : ∀ a, (document a).field? "code" = none) :
    (Response.ofResult document outcome).code? ≠ some code := by
  cases outcome with
  | ok a =>
      show (Response.ofDocument 200 (document a)).code? ≠ some code
      rw [Response.code?_ofDocument_of_field?_eq_none (absent a)]
      exact Option.some_ne_none code |>.symm
  | error refusal =>
      show (Response.ofRefusal refusal).code? ≠ some code
      rw [Response.code?_ofRefusal]
      exact fun same => never refusal rfl (Option.some.inj same)

end NeverRefuses

/-- What is wrong with a body is never the fault of a component. -/
theorem neverRefuses_read {α : Type} (request : Request) (reader : Reader α) :
    NeverRefuses "CIRCULAR_REFERENCE" (request.read reader) := by
  have invalid (message : String) :
      (Refusal.invalid message).body.code ≠ "CIRCULAR_REFERENCE" := by
    show "VALIDATION_ERROR" ≠ "CIRCULAR_REFERENCE"
    decide
  have malformed (message : String) :
      (Refusal.malformed message).body.code ≠ "CIRCULAR_REFERENCE" := by
    show "MALFORMED_JSON" ≠ "CIRCULAR_REFERENCE"
    decide
  rw [Request.read]
  cases readBody request.contentType request.body reader with
  | ok value => exact .ok value
  | error fault =>
      refine .error ?_
      cases fault with
      | missingContentType => decide
      | tooLarge => exact malformed _
      | syntaxError => exact malformed _
      | data error =>
          simp only [BodyFault.refusal]
          split
          · exact invalid _
          · exact malformed _

theorem neverRefuses_admitted (employee : Employee) :
    NeverRefuses "CIRCULAR_REFERENCE" (admitted employee) := by
  rw [admitted]
  cases accept employee with
  | ok accepted => exact .ok accepted
  | error fault =>
      refine .error ?_
      show "VALIDATION_ERROR" ≠ "CIRCULAR_REFERENCE"
      decide

end Payslip.Service
