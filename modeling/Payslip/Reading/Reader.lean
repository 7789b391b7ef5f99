/-
# Readers

A reader takes a document for a value of some type, or tells the first fault that it meets on
its way from the start of the document to its end. A scalar is judged once it has been read, a
container in place of a scalar as soon as it opens.
-/

import Payslip.Reading.Fault
import Payslip.Yaml.Scalar

namespace Payslip.Reading

/-- Takes a document for a value. -/
abbrev Reader (α : Type) := Document → Except ReadError α

/-- A fault at the place of the document itself. -/
def fail {α : Type} (fault : Fault) : Except ReadError α := .error (.here fault)

/-- Names the place of what is read inside of the document. -/
def within {α : Type} (step : Step) (result : Except ReadError α) : Except ReadError α :=
  result.mapError (·.under step)

/-- What is wrong with a document of another type than the wanted one. -/
def Document.otherType : Document → Fault
  | .broken => .malformed
  | .text none => .malformed
  | .text (some content) => .wrongType (some content)
  | .plain content => .wrongType (some content)
  | .number written => if (Number.value? written).isSome then .wrongType none else .malformed
  | _ => .wrongType none

namespace Reader

/-- Reads a text. Every plain scalar is one. -/
def text : Reader String
  | .text (some content) => .ok content
  | .plain content => .ok content
  | other => fail other.otherType

/-- Reads a truth value. -/
def bool : Reader Bool
  | .bool value => .ok value
  | .plain content =>
    match Yaml.Scalar.bool? content with
    | some value => .ok value
    | none => fail (.wrongType none)
  | other => fail other.otherType

/-- Reads a whole number from `low` to `high`. -/
def whole (low high : Int) : Reader Int
  | .number number =>
    match Number.value? number with
    | none => fail .malformed
    | some (.binary _ _) => fail (.wrongType none)
    | some (.whole n) => if low ≤ n ∧ n ≤ high then .ok n else fail (.badValue none)
  | .plain content =>
    match Yaml.Scalar.word? content with
    | none => fail (.wrongType none)
    | some n => if low ≤ n ∧ n ≤ high then .ok n else fail (.badValue none)
  | other => fail other.otherType

/-- Reads a word of 32 bits. -/
def word : Reader UInt32 := fun document =>
  (whole 0 (UInt32.size - 1) document).map fun n => UInt32.ofNat n.toNat

/-- Reads a whole number of 64 bits with a sign. -/
def signed : Reader Int := whole (-Number.signedBound) (Number.signedBound - 1)

/-- A number as an amount: a whole number as it is, any other by its shortest decimal form. -/
def amountOfNumber (value : Number.Value) : Except ReadError Decimal :=
  match value with
  | .whole n =>
    match Decimal.ofInt? n with
    | some amount => .ok amount
    | none => fail (.badValue none)
  | .binary _ _ =>
    match Decimal.ofChars value.chars with
    | .ok amount => .ok amount
    | .error _ => fail (.badValue none)

/-- The text of an amount. -/
def amountOfText (content : String) : Except ReadError Decimal :=
  match Decimal.parse? content with
  | some amount => .ok amount
  | none => fail (.badValue (some content))

/-- Reads an amount from a number or from a text. -/
def amount : Reader Decimal
  | .number number =>
    match Number.value? number with
    | none => fail .malformed
    | some value => amountOfNumber value
  | .text (some content) => amountOfText content
  | .plain content =>
    match Yaml.Scalar.amount content with
    | .nothing | .truth => fail (.wrongType none)
    | .whole n =>
      if -Number.signedBound ≤ n ∧ n < Number.wordBound then amountOfNumber (.whole n)
      else if -twoPow 127 ≤ n ∧ n < twoPow 128 then fail (.wrongType none)
      else fail (.badValue none)
    | .infinite => fail (.badValue none)
    | .binary negative magnitude => amountOfNumber (.binary negative magnitude)
    | .text => amountOfText content
  | other => fail other.otherType

/-- Reads a value or nothing. -/
def optional {α : Type} (reader : Reader α) : Reader (Option α)
  | .null => .ok none
  | document => (reader document).map some

/-- Reads the items of a list from the given index on. An item is read at its index; what is then
made of it is judged at the place of the list. -/
def items {α β : Type} (reader : Reader α) (convert : α → Except Fault β) (index : Nat) :
    List Document → Except ReadError (List β)
  | [] => .ok []
  | item :: rest => do
    let read ← within (.item index) (reader item)
    let value ← (convert read).mapError .here
    return value :: (← items reader convert (index + 1) rest)

/-- Reads a list of what `convert` makes of each item. An empty plain scalar is an empty list. -/
def listWith {α β : Type} (reader : Reader α) (convert : α → Except Fault β) : Reader (List β)
  | .list _ contents closed => do
    let values ← items reader convert 0 contents
    if closed then return values else fail .malformed
  | .plain "" => .ok []
  | other => fail other.otherType

/-- Reads a list. -/
def list {α : Type} (reader : Reader α) : Reader (List α) := listWith reader .ok

/-- The choice of a name. -/
def choose {α : Type} (choices : List (String × α)) (name : String) : Except ReadError α :=
  match choices.lookup name with
  | some choice => .ok choice
  | none => fail .unknownChoice

/-- Reads one of some named choices. JSON also has a map with the name as its only key and `null`
as the value of it, and takes everything else for a breach of its rules. -/
def choice {α : Type} (choices : List (String × α)) : Reader α
  | .text (some content) => choose choices content
  | .plain content => choose choices content
  | .map .json ((some name, value) :: rest) closed _ => do
    let chosen ← choose choices name
    match value with
    | .null => if rest.isEmpty && closed then return chosen else fail .malformed
    | other => fail other.otherType
  | .map .json [] _ (some stray) => fail stray.otherType
  | .list .yaml _ _ => fail (.wrongType none)
  | .map .yaml _ _ _ => fail (.wrongType none)
  | _ => fail .malformed

end Reader

/-- Reads the document at the start of a text, whatever stands behind it. -/
def Parsed.readFirst {α : Type} (parsed : Parsed) (reader : Reader α) : Except ReadError α :=
  reader parsed.document

/-- Reads a text that is one document. What stands behind the document is a breach of the format
that counts only when the document itself reads. -/
def Parsed.read {α : Type} (parsed : Parsed) (reader : Reader α) : Except ReadError α := do
  let value ← reader parsed.document
  if parsed.ended then return value else fail .malformed

end Payslip.Reading
