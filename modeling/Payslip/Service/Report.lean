/-
# Reports of bodies that do not read

A report tells the place of the first reading error and what is wrong there, in words, and it quotes
the text that was found in place of the wanted value. What was wanted instead, and the line, are
left out. The class of the refusal is decided by the words of the report, in which any text of the
client may stand.
-/

import Payslip.Reading.Fault

namespace Payslip.Service

open Payslip.Reading

/-- A character within quotation marks. Characters that are not to be seen are written by their
numbers. -/
def escaped (unseen : Char → Bool) (c : Char) : List Char :=
  match c with
  | '"' => ['\\', '"']
  | '\\' => ['\\', '\\']
  | '\n' => ['\\', 'n']
  | '\r' => ['\\', 'r']
  | '\t' => ['\\', 't']
  | '\x00' => ['\\', '0']
  | c => if unseen c then ['\\', 'u', '\x7b'] ++ Nat.toDigits 16 c.toNat ++ ['\x7d'] else [c]

/-- A text in quotation marks. -/
def quoted (unseen : Char → Bool) (text : String) : String :=
  "\"" ++ String.ofList (text.toList.flatMap (escaped unseen)) ++ "\""

/-- What is wrong, in words, with the text that was found. -/
def faultReport (unseen : Char → Bool) : Fault → String
  | .wrongType (some found) => "invalid type: string " ++ quoted unseen found
  | .wrongType none => "invalid type"
  | .badValue (some found) => "invalid value: string " ++ quoted unseen found
  | .badValue none => "invalid value"
  | .wrongLength => "invalid length"
  | .unknownChoice => "unknown variant"
  | fault => fault.summary

/-- The report of a body that does not read. The place is left out if it is the whole body. -/
def report (unseen : Char → Bool) (error : ReadError) : String :=
  let words := faultReport unseen error.fault
  "Failed to deserialize the JSON body into the target type" ++ ": " ++
    if error.place.isEmpty then words else error.place.render ++ ": " ++ words

/-- A text stands somewhere in another one. -/
def occursIn (part : List Char) : List Char → Bool
  | [] => part.isEmpty
  | c :: rest => part.isPrefixOf (c :: rest) || occursIn part rest

/-- The words by which a report is taken for one about a missing field. -/
def missingFieldMark : String := "missing field"

/-- A control character. -/
def isControl (c : Char) : Bool := c.toNat < 0x20 || (0x7F ≤ c.toNat && c.toNat < 0xA0)

/-- The report has the words for a missing field in it. Whether characters beyond the control
characters are to be seen makes no difference. -/
def speaksOfMissingField (error : ReadError) : Bool :=
  occursIn missingFieldMark.toList (report isControl error).toList

end Payslip.Service
