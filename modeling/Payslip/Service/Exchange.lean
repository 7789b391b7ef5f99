/-
# Requests and answers

The service answers three kinds of requests over one configuration: for a breakdown, for a
payroll, and for the list of components.
-/

import Payslip.Service.Body
import Payslip.Service.Fulfilment
import Payslip.Wire.Breakdown

namespace Payslip.Service

open Payslip.Reading

/-- A request. -/
structure Request where
  method : String
  /-- The path, with the query if there is one. -/
  target : String
  contentType : Option String
  body : List UInt8

/-- An answer. Those without a body have no content type either, except to `HEAD`. -/
structure Response where
  status : Nat
  contentType : Option String
  /-- The methods that the path allows, when the request used another one. -/
  allow : Option String
  body : Option Document

namespace Response

/-- An answer with a document. -/
def ofDocument (status : Nat) (body : Document) : Response :=
  ⟨status, some "application/json", none, some body⟩

/-- An answer with a refusal. -/
def ofRefusal (refusal : Refusal) : Response := ofDocument refusal.status refusal.body.document

/-- An answer with a result or with a refusal. -/
def ofResult {α : Type} (document : α → Document) : Except Refusal α → Response
  | .ok value => ofDocument 200 (document value)
  | .error refusal => ofRefusal refusal

/-- The same answer without its body. -/
def headOnly (response : Response) : Response := { response with body := none }

/-- There is nothing at the path. -/
def notFound : Response := ⟨404, none, none, none⟩

/-- The path does not allow the method. -/
def methodNotAllowed (allow : String) : Response := ⟨405, none, some allow, none⟩

end Response

/-- What marks a payroll once it is made: the written forms of its id and of its time. -/
structure Stamp where
  id : String
  date : String

/-- Reads the body of a request, or refuses it. -/
def Request.read {α : Type} (request : Request) (reader : Reader α) : Except Refusal α :=
  (readBody request.contentType request.body reader).mapError BodyFault.refusal

/-- The breakdown that a request asks for. -/
def breakdown (configuration : Configuration) (request : Request) : Except Refusal Breakdown := do
  (← request.read BreakdownRequest.read).fulfil configuration

/-- The payroll that a request asks for. -/
def payroll (configuration : Configuration) (request : Request) : Except Refusal Payroll := do
  (← request.read PayrollRequest.read).fulfil configuration

/-- The paths of the service. -/
inductive Endpoint
  | breakdown
  | payroll
  | components
  deriving DecidableEq, Repr

/-- The endpoint at a path. -/
def Endpoint.ofPath? : String → Option Endpoint
  | "/breakdown" => some .breakdown
  | "/payroll-run" => some .payroll
  | "/components" => some .components
  | _ => none

/-- The part of a target in front of the query. -/
def pathOf (target : String) : String :=
  String.ofList (target.toList.takeWhile fun c => c != '?' && c != '#')

/-- Answers a request. -/
def answer (configuration : Configuration) (stamp : Stamp) (request : Request) : Response :=
  match Endpoint.ofPath? (pathOf request.target) with
  | none => .notFound
  | some .breakdown =>
    if request.method = "POST" then
      .ofResult Breakdown.document (breakdown configuration request)
    else .methodNotAllowed "POST"
  | some .payroll =>
    if request.method = "POST" then
      .ofResult (·.document stamp.id stamp.date) (payroll configuration request)
    else .methodNotAllowed "POST"
  | some .components =>
    if request.method = "GET" then .ofDocument 200 (listing configuration)
    else if request.method = "HEAD" then (Response.ofDocument 200 (listing configuration)).headOnly
    else .methodNotAllowed "GET,HEAD"

end Payslip.Service
