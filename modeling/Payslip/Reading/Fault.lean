/-
# Why a document does not read

A document is read from its start to its end, and the first thing that does not fit is
reported: what is wrong, and at which place of the document. A wrong type or value keeps the
text that was found there, if it was a text.
-/

import Payslip.Formula.WrittenTerm

namespace Payslip.Reading

/-- One step into a document: to a field of a record, or to an item of a list. -/
inductive Step
  | field (name : String)
  | item (index : Nat)
  deriving DecidableEq, Repr

/-- A place in a document, as the steps that lead to it from the outside. -/
abbrev Place := List Step

/-- A place in words: field names joined by points, item numbers in square brackets. -/
def Place.render (place : Place) : String :=
  place.foldl (fun text step =>
    match step with
    | .field name => if text.isEmpty then name else text ++ "." ++ name
    | .item index => text ++ "[" ++ toString index ++ "]") ""

/-- What is wrong at a place. -/
inductive Fault
  /-- The text breaks the rules of its format. -/
  | malformed
  /-- A value of another type. -/
  | wrongType (found : Option String)
  /-- A value of the right type that is out of its range. -/
  | badValue (found : Option String)
  /-- A list with too few items for a record. -/
  | wrongLength
  /-- A name that is none of the choices. -/
  | unknownChoice
  | missingField (name : String)
  | duplicateField (name : String)
  | badTerm (error : TermError)
  /-- A text that is not of its special form, such as a date. -/
  | badText
  deriving DecidableEq, Repr

/-- A fault in one or a few words, without its place. -/
def Fault.summary : Fault → String
  | .malformed => "syntax"
  | .wrongType _ => "invalid_type"
  | .badValue _ => "invalid_value"
  | .wrongLength => "invalid_length"
  | .unknownChoice => "unknown_variant"
  | .missingField name => "missing field `" ++ name ++ "`"
  | .duplicateField name => "duplicate field `" ++ name ++ "`"
  | .badTerm error => error.message
  | .badText => "data"

/-- The text that was found in place of the wanted value. -/
def Fault.found? : Fault → Option String
  | .wrongType found | .badValue found => found
  | _ => none

/-- The first fault of a document, and where it is. -/
structure ReadError where
  place : Place
  fault : Fault
  deriving DecidableEq, Repr

namespace ReadError

/-- A fault at the place itself. -/
def here (fault : Fault) : ReadError := ⟨[], fault⟩

/-- The error as seen one step further out. -/
def under (step : Step) (error : ReadError) : ReadError :=
  { error with place := step :: error.place }

/-- The place, unless it is the whole document, and the fault. -/
def message (error : ReadError) : String :=
  if error.place.isEmpty then error.fault.summary
  else error.place.render ++ ": " ++ error.fault.summary

end ReadError

end Payslip.Reading
