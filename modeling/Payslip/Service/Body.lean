/-
# Bodies of requests

A body has to be announced as JSON and may not be too long. Of a body only the first document
counts, whatever stands behind it. A fault in the data is told by its place; whether the refusal
calls the request invalid or malformed hangs on the words in the report of it.
-/

import Payslip.Json.Parsing
import Payslip.Service.MediaType
import Payslip.Service.Refusal
import Payslip.Service.Report

namespace Payslip.Service

open Payslip.Reading

/-- Bodies may have so many bytes. -/
def bodyLimit : Nat := 2097152

/-- Why a body was not read. -/
inductive BodyFault
  | missingContentType
  | tooLarge
  | syntaxError
  | data (error : ReadError)
  deriving DecidableEq, Repr

/-- Reads the document at the start of a body. -/
def readBody {α : Type} (contentType : Option String) (body : List UInt8) (reader : Reader α) :
    Except BodyFault α :=
  if !contentType.any MediaType.isJson then .error .missingContentType
  else if bodyLimit < body.length then .error .tooLarge
  else
    ((Json.parse (Text.Source.ofBytes body)).readFirst reader).mapError fun error =>
      if error.fault = .malformed then .syntaxError else .data error

/-- The refusal of a body that was not read. -/
def BodyFault.refusal : BodyFault → Refusal
  | .missingContentType =>
    .badRequest "MISSING_CONTENT_TYPE" "Content-Type must be application/json" none
  | .tooLarge => .malformed "Failed to parse request body"
  | .syntaxError =>
    .malformed "Invalid JSON syntax: Failed to parse the request body as JSON"
  | .data error =>
    let message :=
      "Failed to deserialize the JSON body into the target type: " ++ error.message
    if speaksOfMissingField error then .invalid message else .malformed message

end Payslip.Service
