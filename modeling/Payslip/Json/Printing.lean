/-
# Writing documents as JSON

The shortest way to write a document: no space between tokens, and in texts only those
characters escaped that have to be.
-/

import Payslip.Reading.Document

namespace Payslip.Json

open Payslip.Reading

/-- A digit of a hexadecimal number below sixteen. -/
def hexDigit (n : Nat) : Char := Nat.digitChar n

/-- A character as it stands between quotes. -/
def escape (c : Char) : List Char :=
  if c = '"' then ['\\', '"']
  else if c = '\\' then ['\\', '\\']
  else if c = '\x08' then ['\\', 'b']
  else if c = '\x0c' then ['\\', 'f']
  else if c = '\n' then ['\\', 'n']
  else if c = '\r' then ['\\', 'r']
  else if c = '\t' then ['\\', 't']
  else if c.toNat < 0x20 then
    ['\\', 'u', '0', '0', hexDigit (c.toNat / 16), hexDigit (c.toNat % 16)]
  else [c]

/-- A text between quotes. -/
def renderText (text : String) : List Char :=
  '"' :: text.toList.flatMap escape ++ ['"']

/-- A number as it was written. -/
def renderNumber (number : Number) : List Char :=
  (if number.negative then ['-'] else []) ++ number.whole ++
    (match number.fraction with
      | some digits => '.' :: digits
      | none => []) ++
    (match number.exponent with
      | some (negative, digits) => 'e' :: (if negative then ['-'] else []) ++ digits
      | none => [])

mutual

/-- The characters of a document. A place where a document breaks off is written as `null`. -/
def renderChars : Document → List Char
  | .broken | .null | .text none => ['n', 'u', 'l', 'l']
  | .bool value => (if value then "true" else "false").toList
  | .number number => renderNumber number
  | .text (some content) => renderText content
  | .plain content => renderText content
  | .list _ items _ => '[' :: renderItems items ++ [']']
  | .map _ entries _ _ => '\x7b' :: renderEntries entries ++ ['\x7d']

/-- The items of a list with commas between them. -/
def renderItems : List Document → List Char
  | [] => []
  | [item] => renderChars item
  | item :: rest => renderChars item ++ ',' :: renderItems rest

/-- The entries of a map with commas between them. -/
def renderEntries : List (Option String × Document) → List Char
  | [] => []
  | [(key, value)] => renderText (key.getD "") ++ ':' :: renderChars value
  | (key, value) :: rest =>
    renderText (key.getD "") ++ ':' :: renderChars value ++ ',' :: renderEntries rest

end

/-- A document as JSON text. -/
def render (document : Document) : String := String.ofList (renderChars document)

end Payslip.Json
