/-
# Run ids

A payroll run is identified by a UUID: 32 hexadecimal digits, written in five groups. It can also
be read without the dashes, in braces, or as a URN.
-/

import Payslip.Text.Digits

namespace Payslip

/-- A number of 128 bits that identifies something. -/
structure Uuid where
  value : Nat
  deriving DecidableEq, Repr

namespace Uuid

/-- The lengths of the groups of digits. -/
def groups : List Nat := [8, 4, 4, 4, 12]

/-- The hexadecimal digits of an id without dashes. -/
def digits (id : Uuid) : List Char :=
  let digits := Nat.toDigits 16 id.value
  List.replicate (32 - digits.length) '0' ++ digits

/-- Cuts digits into groups. -/
def cut : List Nat → List Char → List (List Char)
  | [], _ => []
  | size :: sizes, digits => digits.take size :: cut sizes (digits.drop size)

/-- The written form: lower-case digits with dashes between the groups. -/
def render (id : Uuid) : String :=
  String.ofList (['-'].intercalate (cut groups id.digits))

/-- Reads digits without dashes. -/
def ofDigits? (digits : List Char) : Option Uuid :=
  if digits.length = 32 then (Text.naturalIn? 16 digits).map Uuid.mk else none

/-- Reads digits with dashes between the groups. -/
def ofGroups? (text : List Char) : Option Uuid :=
  let digits := text.filter (· != '-')
  if ['-'].intercalate (cut groups digits) = text then ofDigits? digits else none

/-- The text behind a mark, if it starts with it. -/
def behind? (mark text : List Char) : Option (List Char) :=
  if mark.isPrefixOf text then some (text.drop mark.length) else none

/-- Reads an id in any of its written forms. -/
def parse? (text : String) : Option Uuid :=
  let chars := text.toList
  ofDigits? chars <|> ofGroups? chars <|> (behind? "urn:uuid:".toList chars).bind ofGroups? <|>
    if chars.head? = some '\x7b' ∧ chars.getLast? = some '\x7d' then
      ofGroups? (chars.drop 1).dropLast
    else none

end Uuid

end Payslip
