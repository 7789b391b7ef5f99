/-
# Amounts and texts as documents
-/

import Payslip.Reading.Record

namespace Payslip

open Payslip.Reading

/-- An amount as a document: its text, which shows the scale. -/
def Decimal.document (amount : Decimal) : Document := .ofText amount.render

/-- A text or nothing as a document. -/
def optionalText : Option String → Document
  | some text => .ofText text
  | none => .null

/-- A word of 32 bits or nothing as a document. -/
def optionalWord : Option UInt32 → Document
  | some word => .ofInt word.toNat
  | none => .null

/-- Reads a text of a special form. -/
def Reading.Reader.special {α : Type} (parse? : String → Option α) : Reader α := fun document => do
  match parse? (← Reader.text document) with
  | some value => return value
  | none => fail .badText

end Payslip
