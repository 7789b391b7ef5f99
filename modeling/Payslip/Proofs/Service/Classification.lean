/-
# How a body that does not read is refused

A refusal of a body calls the request invalid or malformed, and a client that gets the one will look
for a field to fill in, where one that gets the other will look for a mistake in its program. Which
of them it is, is decided by the words in the report of the first reading error. A missing field is
always recognised by them. But a report also quotes texts of the client, and a quoted text with the
same words in it is taken for the report of a missing field (`quoted_words_are_taken_for_a_report`).

So the classes are right only as far as the texts of the document do not speak of missing fields
themselves; `answer_classifies` says what becomes of those that do.
-/

import Mathlib.Control.Monad.Basic
import Payslip.Proofs.Service.Batch
import Payslip.Proofs.Service.Report

namespace Payslip.Service

open Payslip.Reading

/-! ## Requests that do not read -/

/-- The document that a body starts with. -/
def Request.document (request : Request) : Document :=
  (Json.parse (Text.Source.ofBytes request.body)).document

/-- The request posts a body that is announced as JSON and not too long. -/
structure Request.PostsJson (request : Request) : Prop where
  method_eq : request.method = "POST"
  announced : request.contentType.any MediaType.isJson = true
  inLimit : request.body.length ≤ bodyLimit

/-- The document does not read as what the path asks for, and this is the first error. -/
inductive Request.Misreads (request : Request) (error : ReadError) : Prop
  | breakdown (endpoint : Endpoint.ofPath? (pathOf request.target) = some .breakdown)
      (failed : BreakdownRequest.read request.document = .error error)
  | payroll (endpoint : Endpoint.ofPath? (pathOf request.target) = some .payroll)
      (failed : PayrollRequest.read request.document = .error error)

variable {configuration : Configuration} {stamp : Stamp} {request : Request} {error : ReadError}

theorem Request.Misreads.quotes (misreads : request.Misreads error) :
    error.Quotes request.document.texts := by
  cases misreads with
  | breakdown _ failed => exact BreakdownRequest.read_quotes request.document error failed
  | payroll _ failed => exact PayrollRequest.read_quotes request.document error failed

/-- What is wrong with a body, given its first reading error. -/
def BodyFault.ofReadError (error : ReadError) : BodyFault :=
  if error.fault = .malformed then .syntaxError else .data error

theorem Request.PostsJson.read_eq {α : Type} (posts : request.PostsJson) {reader : Reader α}
    (failed : reader request.document = .error error) :
    request.read reader = .error (BodyFault.ofReadError error).refusal := by
  have parsed : (Json.parse (Text.Source.ofBytes request.body)).readFirst reader = .error error :=
    failed
  rw [Request.read, readBody, posts.announced, if_neg (by decide),
    if_neg (Nat.not_lt.mpr posts.inLimit), parsed]
  rfl

theorem answer_of_misreads (posts : request.PostsJson) (misreads : request.Misreads error) :
    answer configuration stamp request =
      .ofRefusal (BodyFault.ofReadError error).refusal := by
  cases misreads with
  | breakdown endpoint failed =>
      simp only [answer, endpoint, posts.method_eq, if_true, breakdown, posts.read_eq failed]
      rfl
  | payroll endpoint failed =>
      simp only [answer, endpoint, posts.method_eq, if_true, payroll, posts.read_eq failed]
      rfl

/-- The two refusals of a body that was read as far as its first error. -/
theorem exists_refusal_eq {texts : List String} (quotes : error.Quotes texts) :
    ∃ message, (BodyFault.ofReadError error).refusal =
      if speaksOfMissingField error then .invalid message else .malformed message := by
  rw [BodyFault.ofReadError]
  split
  · next broken =>
    have silent : ¬ speaksOfMissingField error = true := by
      rw [speaksOfMissingField_iff quotes, broken]
      simp [Fault.found?]
    simp only [if_neg silent]
    exact ⟨_, rfl⟩
  · exact ⟨_, rfl⟩

theorem refusesWith_invalid_iff (posts : request.PostsJson) (misreads : request.Misreads error) :
    (answer configuration stamp request).refusesWith 400 "VALIDATION_ERROR" = true ↔
      (∃ name, error.fault = .missingField name) ∨
        ∃ found ∈ error.fault.found?, HasMark found := by
  obtain ⟨message, refused⟩ := exists_refusal_eq misreads.quotes
  rw [answer_of_misreads posts misreads, Response.refusesWith_ofRefusal, refused,
    ← speaksOfMissingField_iff misreads.quotes]
  cases speaksOfMissingField error <;>
    simp [Refusal.invalid, Refusal.malformed, Refusal.badRequest]

theorem refusesWith_malformed_iff (posts : request.PostsJson)
    (misreads : request.Misreads error) :
    (answer configuration stamp request).refusesWith 400 "MALFORMED_JSON" = true ↔
      (∀ name, error.fault ≠ .missingField name) ∧
        ∀ found ∈ error.fault.found?, ¬ HasMark found := by
  obtain ⟨message, refused⟩ := exists_refusal_eq misreads.quotes
  have silent : ¬ speaksOfMissingField error = true ↔ _ :=
    not_congr (speaksOfMissingField_iff misreads.quotes)
  simp only [not_or, not_exists, not_and] at silent
  rw [answer_of_misreads posts misreads, Response.refusesWith_ofRefusal, refused, ← silent]
  cases speaksOfMissingField error <;>
    simp [Refusal.invalid, Refusal.malformed, Refusal.badRequest]

/-- A body that does not read is refused as invalid if its first error is a missing field, or one
whose report quotes a text that speaks of a missing field, and as malformed in every other case. The
text is one of the document; where none of these speaks of a missing field, the class is that of the
error. -/
theorem answer_classifies (configuration : Configuration) (stamp : Stamp)
    (posts : request.PostsJson) (misreads : request.Misreads error) :
    ((answer configuration stamp request).refusesWith 400 "VALIDATION_ERROR" = true ↔
      (∃ name, error.fault = .missingField name) ∨ ∃ found ∈ error.fault.found?, HasMark found) ∧
    ((answer configuration stamp request).refusesWith 400 "MALFORMED_JSON" = true ↔
      (∀ name, error.fault ≠ .missingField name) ∧ ∀ found ∈ error.fault.found?, ¬ HasMark found) ∧
    (∀ found ∈ error.fault.found?, found ∈ request.document.texts) ∧
    ((∀ text ∈ request.document.texts, ¬ HasMark text) →
      ((answer configuration stamp request).refusesWith 400 "VALIDATION_ERROR" = true ↔
        ∃ name, error.fault = .missingField name) ∧
      ((answer configuration stamp request).refusesWith 400 "MALFORMED_JSON" = true ↔
        ∀ name, error.fault ≠ .missingField name)) := by
  have unquoted (unmarked : ∀ text ∈ request.document.texts, ¬ HasMark text) :
      ∀ found ∈ error.fault.found?, ¬ HasMark found :=
    fun found quoted => unmarked found (misreads.quotes.fault.mem found quoted)
  rw [refusesWith_invalid_iff posts misreads, refusesWith_malformed_iff posts misreads]
  refine ⟨Iff.rfl, Iff.rfl, misreads.quotes.fault.mem, fun unmarked => ⟨?_, ?_⟩⟩
  · apply or_iff_left
    rintro ⟨found, quoted, marked⟩
    exact unquoted unmarked found quoted marked
  · exact and_iff_left (unquoted unmarked)

/-- A number of days that is a text, and which. -/
def daysRequest (days : String) : Request :=
  posted "/breakdown" <|
    "\x7b\"employee\":[\"a\",\"Asha\",60000,4,\"std\"],\"working_days\":\"" ++ days ++ "\"\x7d"

/-- An employee without a cost to company, whose name is only nearly the words. -/
def namedRequest : Request :=
  posted "/payroll-run" "\x7b\"employees\":[\x7b\"id\":\"a\",\"name\":\"Miss Ing Field\"\x7d]\x7d"

theorem answer_classifies_missingCtc :
    namedRequest.PostsJson ∧
    namedRequest.Misreads ⟨[.field "employees", .item 0], .missingField "ctc"⟩ ∧
    (∀ text ∈ namedRequest.document.texts, ¬ HasMark text) ∧
    (answer plainConfiguration ⟨"id", "date"⟩ namedRequest).refusesWith 400 "VALIDATION_ERROR" =
      true ∧
    (daysRequest "thirty").PostsJson ∧
    (daysRequest "thirty").Misreads ⟨[.field "working_days"], .wrongType (some "thirty")⟩ ∧
    (∀ text ∈ (daysRequest "thirty").document.texts, ¬ HasMark text) ∧
    (answer plainConfiguration ⟨"id", "date"⟩ (daysRequest "thirty")).refusesWith 400
      "MALFORMED_JSON" = true := by
  have named : namedRequest.PostsJson := ⟨rfl, by decide +kernel, by decide +kernel⟩
  have missing : namedRequest.Misreads ⟨[.field "employees", .item 0], .missingField "ctc"⟩ :=
    .payroll (by decide +kernel) (by decide +kernel)
  have unmarked : ∀ text ∈ namedRequest.document.texts, ¬ HasMark text := by decide +kernel
  have days : (daysRequest "thirty").PostsJson := ⟨rfl, by decide +kernel, by decide +kernel⟩
  have wrong : (daysRequest "thirty").Misreads
      ⟨[.field "working_days"], .wrongType (some "thirty")⟩ :=
    .breakdown (by decide +kernel) (by decide +kernel)
  have unmarked' : ∀ text ∈ (daysRequest "thirty").document.texts, ¬ HasMark text := by
    decide +kernel
  have invalid := (answer_classifies plainConfiguration ⟨"id", "date"⟩ named missing).2.2.2 unmarked
  have malformed := (answer_classifies plainConfiguration ⟨"id", "date"⟩ days wrong).2.2.2 unmarked'
  exact ⟨named, missing, unmarked, invalid.1.mpr ⟨"ctc", rfl⟩, days, wrong, unmarked',
    malformed.2.mpr (by simp)⟩

/-- A body whose only error is a text in place of a number is refused as one with a missing field,
because the text says so. -/
theorem quoted_words_are_taken_for_a_report :
    (daysRequest "missing field").PostsJson ∧
    (daysRequest "missing field").Misreads
      ⟨[.field "working_days"], .wrongType (some "missing field")⟩ ∧
    (answer plainConfiguration ⟨"id", "date"⟩ (daysRequest "missing field")).refusesWith 400
      "VALIDATION_ERROR" = true ∧
    (answer plainConfiguration ⟨"id", "date"⟩ (daysRequest "missing field")).refusesWith 400
      "MALFORMED_JSON" = false := by
  refine ⟨⟨rfl, ?_, ?_⟩, .breakdown ?_ ?_, ?_, ?_⟩ <;> decide +kernel

end Payslip.Service
