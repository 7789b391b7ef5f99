/-
# The text of an amount

Writing shows every digit of the scale, so it keeps amounts apart that are the same number.
Reading takes an optional sign and digits with at most one point; an underscore may follow any
digit. Digits beyond the room of an amount are rounded away after the point and refused before
it. A second reader adds an exponent.
-/

import Payslip.Decimal.Arithmetic
import Payslip.Text.Digits

namespace Payslip.Decimal

open Payslip.Text

/-- The digits of the coefficient, with zeros in front so that one stands before the point. -/
def paddedDigits (x : Decimal) : List Char :=
  let digits := Nat.toDigits 10 x.coefficient
  List.replicate (x.scale + 1 - digits.length) '0' ++ digits

/-- The characters of the written form: sign, whole part, and the fraction behind a point. -/
def chars (x : Decimal) : List Char :=
  let digits := x.paddedDigits
  let whole := digits.take (digits.length - x.scale)
  let fraction := digits.drop (digits.length - x.scale)
  (if x.negative then ['-'] else []) ++ whole ++
    (if x.scale = 0 then [] else '.' :: fraction)

/-- The written form, which shows the scale. -/
def render (x : Decimal) : String := String.ofList x.chars

instance : ToString Decimal := ⟨render⟩

/-- Why a text is not an amount. -/
inductive TextFault
  /-- The whole part is out of range. -/
  | tooManyDigits
  /-- Rounding the last digit leads out of range. -/
  | roundedTooLarge
  /-- The text has another form. -/
  | malformed
  deriving DecidableEq, Repr

/-- The wording of a text fault. -/
def TextFault.message : TextFault → String
  | .tooManyDigits => "Invalid decimal: overflow from too many digits"
  | .roundedTooLarge => "Invalid decimal: overflow from mantissa after rounding"
  | .malformed => "Invalid decimal: unknown character"

/-- What has been read of an amount. -/
structure Scan where
  coefficient : Nat
  scale : Nat
  digitSeen : Bool
  pointSeen : Bool
  deriving DecidableEq, Repr

namespace Scan

/-- Nothing has been read yet. -/
def start : Scan := ⟨0, 0, false, false⟩

/-- Rounds by the first digit that has no room; all that follows has to be digits or
underscores and is dropped. -/
def roundOff (seen : Scan) (digit : Nat) (rest : List Char) : Except TextFault (Nat × Nat) :=
  let kept := if 5 ≤ digit then seen.coefficient + 1 else seen.coefficient
  if bound ≤ kept ∧ seen.scale = 0 then .error .roundedTooLarge
  else if rest.all fun c => isDigit c || c == '_' then
    if bound ≤ kept then .ok ((kept + 4) / 10, seen.scale - 1) else .ok (kept, seen.scale)
  else .error .malformed

/-- Reads the digits of an amount; the result is its coefficient and its scale. -/
def run (seen : Scan) : List Char → Except TextFault (Nat × Nat)
  | [] => if seen.digitSeen then .ok (seen.coefficient, seen.scale) else .error .malformed
  | c :: rest =>
    match digit? c with
    | some digit =>
      let next := seen.coefficient * 10 + digit
      if seen.pointSeen then
        if seen.scale = maxScale ∨ bound ≤ next then seen.roundOff digit rest
        else run { seen with coefficient := next, scale := seen.scale + 1, digitSeen := true } rest
      else if bound ≤ next then .error .tooManyDigits
      else run { seen with coefficient := next, digitSeen := true } rest
    | none =>
      if c = '.' ∧ seen.pointSeen = false then run { seen with pointSeen := true } rest
      else if c = '_' ∧ seen.digitSeen then run seen rest
      else .error .malformed

end Scan

/-- Reads an amount without an exponent from its characters. A zero loses its sign. -/
def ofChars (text : List Char) : Except TextFault Decimal := do
  let (negative, digits) :=
    match text with
    | '-' :: rest => (true, rest)
    | '+' :: rest => (false, rest)
    | _ => (false, text)
  let (coefficient, scale) ← Scan.start.run digits
  match build? (negative && coefficient != 0) coefficient scale with
  | some x => .ok x
  | none => .error .tooManyDigits

/-- Reads an amount without an exponent. -/
def ofText (text : String) : Except TextFault Decimal := ofChars text.toList

/-- The same coefficient and sign with another scale. -/
def withScale? (x : Decimal) (scale : Nat) : Option Decimal :=
  build? x.negative x.coefficient scale

/-- The coefficient rounded to fewer digits after the point, keeping the sign even of a zero. -/
def rescale (x : Decimal) (places : Nat) : Option Decimal :=
  if x.scale ≤ places then some x
  else build? x.negative (Rounding.halfUp x.coefficient (tenPow (x.scale - places))) places

/-- The largest power of ten that one multiplication of the exponent reader uses. -/
def strideExponent : Nat := 19

/-- The amount times `10 ^ exponent`. What the scale can absorb only lowers the scale; a greater
exponent multiplies in at most two strides and drops the zeros of the fraction. -/
def scaleUp? (x : Decimal) (exponent : Nat) : Option Decimal :=
  if exponent ≤ x.scale then x.withScale? (x.scale - exponent)
  else if maxScale < exponent then none
  else do
    let first := min exponent strideExponent
    let x ← x.mul? (← build? false (tenPow first) 0)
    let x ← if first = exponent then some x
      else x.mul? (← build? false (tenPow (exponent - first)) 0)
    return x.normalize

/-- The amount over `10 ^ exponent`. The scale grows as far as it can, and the digits that have no
room are rounded away first. -/
def scaleDown? (x : Decimal) (exponent : Nat) : Option Decimal :=
  if maxScale < exponent then none
  else if x.scale + exponent ≤ maxScale then x.withScale? (x.scale + exponent)
  else do
    let x ← x.rescale (maxScale - exponent)
    x.withScale? maxScale

/-- Reads the exponent of an amount: an optional minus, an optional plus, and digits. -/
def exponent? (text : List Char) : Option (Bool × Nat) :=
  let (negative, rest) := match text with
    | '-' :: rest => (true, rest)
    | _ => (false, text)
  let digits := match rest with
    | '+' :: digits => digits
    | _ => rest
  (natural? digits).map (negative, ·)

/-- Reads an amount with an exponent behind the first `e` or `E`. -/
def ofScientific? (text : String) : Option Decimal :=
  match text.toList.span fun c => c != 'e' && c != 'E' with
  | (_, []) => none
  | (base, _ :: exponent) => do
    let x ← (ofChars base).toOption
    let (negative, exponent) ← exponent? exponent
    if negative then x.scaleDown? exponent else x.scaleUp? exponent

/-- Reads an amount with or without an exponent. -/
def parse? (text : String) : Option Decimal :=
  match ofText text with
  | .ok x => some x
  | .error _ => ofScientific? text

end Payslip.Decimal
