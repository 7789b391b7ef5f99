/-
# Refusals

What the service says when it does not do as asked: a code for programs, a message for people and
sometimes details, with the status of the answer.
-/

import Payslip.PayError
import Payslip.Wire.Basic

namespace Payslip.Service

open Payslip.Reading

/-- The body of a refusal. -/
structure ErrorBody where
  code : String
  message : String
  details : Option String
  deriving DecidableEq, Repr

namespace ErrorBody

/-- The fields of the body of a refusal. -/
def record : RecordReader ErrorBody :=
  ErrorBody.mk
    <$> .required "code" Reader.text
    <*> .required "message" Reader.text
    <*> .omissible "details" Reader.text

/-- Reads the body of a refusal. -/
def read : Reader ErrorBody := record.read

/-- The body as a document; details are left out when there are none. -/
def document (body : ErrorBody) : Document :=
  .ofFields <|
    [("code", .ofText body.code), ("message", .ofText body.message)] ++
      match body.details with
      | some details => [("details", .ofText details)]
      | none => []

end ErrorBody

/-- A refusal: the status of the answer and its body. -/
structure Refusal where
  status : Nat
  body : ErrorBody
  deriving DecidableEq, Repr

namespace Refusal

/-- The request is to blame. -/
def badRequest (code message : String) (details : Option String) : Refusal :=
  ⟨400, ⟨code, message, details⟩⟩

/-- The configuration is to blame. -/
def internal (code message details : String) : Refusal := ⟨500, ⟨code, message, some details⟩⟩

/-- A request that says something impossible. -/
def invalid (message : String) : Refusal := badRequest "VALIDATION_ERROR" message none

/-- A request whose body is not what it should be. -/
def malformed (message : String) : Refusal := badRequest "MALFORMED_JSON" message none

/-- The refusal that follows from a failed calculation. -/
def ofError (error : PayError) : Refusal :=
  match error with
  | .configurationNotFound _ | .configurationRefused _ _ =>
    internal "CONFIG_ERROR" "Configuration error" error.message
  | .structureNotAssigned _ =>
    badRequest "STRUCTURE_NOT_ASSIGNED" error.message
      (some "Assign a salary_structure_id to the employee")
  | .structureNotFound id =>
    badRequest "STRUCTURE_NOT_FOUND" error.message
      (some ("The salary structure '" ++ id ++ "' is not configured"))
  | .noEligibleEmployees => badRequest "NO_ELIGIBLE_EMPLOYEES" error.message none
  | .componentNotFound _ => badRequest "COMPONENT_NOT_FOUND" error.message none
  | .invalidFormula _ _ | .invalidTerm _ => badRequest "INVALID_FORMULA" error.message none
  | .circularReference cycle =>
    internal "CIRCULAR_REFERENCE" "Component configuration contains a cycle"
      (PayError.cycleText cycle)
  | .calculation fault => internal "CALCULATION_ERROR" "Calculation failed" fault.message

end Refusal

end Payslip.Service
