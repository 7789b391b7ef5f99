/-
# Documents

The data that a text in one of the formats holds, before it is read as anything in particular. A
text that breaks the rules of its format still holds a document, up to the first place where it
does: containers around that place are not closed. So a reader that walks a document in the
order of the text meets what is wrong with the data before it meets the broken place, or after.
-/

import Payslip.Text.Utf8

namespace Payslip.Reading

/-- The formats of documents. -/
inductive Format
  | json
  | yaml
  deriving DecidableEq, Repr, Inhabited

/-- A number as it is written. -/
structure Number where
  negative : Bool
  whole : List Char
  fraction : Option (List Char)
  /-- Whether the exponent is negative, and its digits. -/
  exponent : Option (Bool × List Char)
  deriving DecidableEq, Repr, Inhabited

/-- A document, as far as it goes. -/
inductive Document
  /-- No value: the text breaks off or breaks the rules here. -/
  | broken
  | null
  | bool (value : Bool)
  | number (number : Number)
  /-- A text, unless what stands there is no text. -/
  | text (content : Option String)
  /-- A text without quotes, whose meaning depends on what is wanted. -/
  | plain (content : String)
  | list (format : Format) (items : List Document) (closed : Bool)
  /-- Keys with values, where a key that is no text takes the place of its value. What stands in the
  place of the first key but can be none ends the document and is kept apart. -/
  | map (format : Format) (entries : List (Option String × Document)) (closed : Bool)
      (strayKey : Option Document)
  deriving Repr, Inhabited

namespace Document

/-- The document goes to its end. -/
def isWhole : Document → Bool
  | .broken => false
  | .list _ _ closed => closed
  | .map _ _ closed _ => closed
  | _ => true

/-- A text. -/
def ofText (text : String) : Document := .text (some text)

/-- A whole number. -/
def ofInt (n : Int) : Document :=
  .number ⟨n < 0, Nat.toDigits 10 n.natAbs, none, none⟩

/-- A list of documents. -/
def ofList (items : List Document) : Document := .list .json items true

/-- A record with the given fields. -/
def ofFields (fields : List (String × Document)) : Document :=
  .map .json (fields.map fun field => (some field.1, field.2)) true none

/-- An entry of a map. A key that is no text takes the place of the value. -/
def entry (key value : Document) : Option String × Document :=
  match key with
  | .text (some name) | .plain name => (some name, value)
  | _ => (none, key)

/-- The value of a field of a record. -/
def field? (document : Document) (name : String) : Option Document :=
  match document with
  | .map _ entries _ _ => entries.lookup (some name)
  | _ => none

end Document

/-- The document at the start of a text, and whether the text ends with it. -/
structure Parsed where
  document : Document
  ended : Bool
  deriving Repr

end Payslip.Reading
