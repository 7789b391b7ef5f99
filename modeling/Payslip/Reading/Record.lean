/-
# Reading records

A record is written as a map with a key for each field, in any order, or in JSON as a list of its
fields in their order. Fields that the record does not have are skipped. The fields of a map are
judged in the order of the text: a field that is there twice at its second key, a missing one at
the end.
-/

import Payslip.Reading.Reader

namespace Payslip.Reading

/-- When a field may be left out. -/
inductive Presence
  | required
  /-- A map may leave it out, a list may not. -/
  | omissible
  /-- Maps and lists may leave it out. -/
  | defaulted
  deriving DecidableEq, Repr

/-- A field of a record: its name, when it may be left out, and what its value has to be. -/
structure FieldRule where
  name : String
  presence : Presence
  check : Reader Unit

/-- The fields of a record that were found, with their values. -/
abbrev Fields := List (String × Document)

/-- Reads a record: what its fields have to be, in their order, and the record that they make. -/
structure RecordReader (α : Type) where
  rules : List FieldRule
  build : Fields → Except ReadError α

namespace RecordReader

/-- A record without fields. -/
def pure {α : Type} (value : α) : RecordReader α := ⟨[], fun _ => .ok value⟩

/-- The fields of one record in front of those of another. -/
def seq {α β : Type} (first : RecordReader (α → β)) (second : RecordReader α) : RecordReader β where
  rules := first.rules ++ second.rules
  build fields := do
    let make ← first.build fields
    let value ← second.build fields
    return make value

instance : Applicative RecordReader where
  pure := RecordReader.pure
  seq first second := RecordReader.seq first (second ())

/-- A single field. -/
def field {α : Type} (name : String) (presence : Presence) (reader : Reader α)
    (absent : Except ReadError α) : RecordReader α where
  rules := [⟨name, presence, fun document => (reader document).map fun _ => ()⟩]
  build fields :=
    match fields.lookup name with
    | some document => within (.field name) (reader document)
    | none => absent

/-- A field that has to be there. -/
def required {α : Type} (name : String) (reader : Reader α) : RecordReader α :=
  field name .required reader (fail (.missingField name))

/-- A field with a value that stands in for it. -/
def defaulted {α : Type} (name : String) (reader : Reader α) (absent : α) : RecordReader α :=
  field name .defaulted reader (.ok absent)

/-- A field that may be nothing, or be left out of a map. -/
def omissible {α : Type} (name : String) (reader : Reader α) : RecordReader (Option α) :=
  field name .omissible reader.optional (.ok none)

/-- Goes through the entries of a map, where a key that is no text takes the place of its value.
`found` holds the fields so far, latest first. -/
def collect (rules : List FieldRule) (found : Fields) :
    List (Option String × Document) → Except ReadError Fields
  | [] => .ok found.reverse
  | (none, key) :: _ => fail key.otherType
  | (some key, value) :: rest =>
    match rules.find? (·.name == key) with
    | none => if value.isWhole then collect rules found rest else fail .malformed
    | some rule =>
      if found.any (·.1 == key) then fail (.duplicateField key)
      else do
        within (.field key) (rule.check value)
        collect rules ((key, value) :: found) rest

/-- Goes through the items of a list, each of which is the next field. -/
def distribute (index : Nat) (closed : Bool) :
    List FieldRule → List Document → Except ReadError Fields
  | [], [] => if closed then .ok [] else fail .malformed
  | [], _ :: _ => fail .malformed
  | rule :: rules, item :: items => do
    within (.item index) (rule.check item)
    return (rule.name, item) :: (← distribute (index + 1) closed rules items)
  | rule :: rules, [] =>
    if !closed then fail .malformed
    else if rule.presence = .defaulted then distribute (index + 1) closed rules []
    else fail .wrongLength

/-- Reads a record. An empty plain scalar is a map without entries. -/
def read {α : Type} (record : RecordReader α) : Reader α
  | .map _ entries closed _ => do
    let fields ← collect record.rules [] entries
    if closed then record.build fields else fail .malformed
  | .list .json items closed => do
    record.build (← distribute 0 closed record.rules items)
  | .plain "" => record.build []
  | other => fail other.otherType

end RecordReader

end Payslip.Reading
