/-
# What a plain YAML scalar means

A scalar without quotes can stand for nothing, a truth value, a whole number, a binary number or
for its own text, whichever the reader is looking for.
-/

import Payslip.Number.Value

namespace Payslip.Yaml.Scalar

open Payslip.Text

/-- The scalar stands for nothing. -/
def isNull (text : String) : Bool :=
  text == "" || text == "~" || text == "null" || text == "Null" || text == "NULL"

/-- The truth value that a scalar stands for. -/
def bool? (text : String) : Option Bool :=
  if text == "true" || text == "True" || text == "TRUE" then some true
  else if text == "false" || text == "False" || text == "FALSE" then some false
  else none

/-- More than one digit, the first one a zero: not a number but a text, such as a postal code. -/
def isZeroPadded (text : List Char) : Bool :=
  let digits := match text with
    | '-' :: rest | '+' :: rest => rest
    | _ => text
  1 < digits.length && digits.head? == some '0' && digits.all isDigit

/-- A number without a sign: in base sixteen, eight or two behind its mark, otherwise decimal. -/
def unsigned? (text : List Char) : Option Nat :=
  match text with
  | '0' :: 'x' :: digits => naturalIn? 16 digits
  | '0' :: 'o' :: digits => naturalIn? 8 digits
  | '0' :: 'b' :: digits => naturalIn? 2 digits
  | _ => if isZeroPadded text then none else naturalIn? 10 text

/-- The whole number that a scalar stands for. -/
def int? (text : String) : Option Int :=
  match text.toList with
  | '-' :: rest => (unsigned? rest).map fun n => -(n : Int)
  | '+' :: rest => (unsigned? rest).map fun n => (n : Int)
  | rest => (unsigned? rest).map fun n => (n : Int)

/-- The word of 64 bits that a scalar stands for: a whole number without a minus. -/
def word? (text : String) : Option Nat :=
  if text.startsWith "-" then none
  else ((int? text).map Int.toNat).filter (· < Number.wordBound)

/-- A number written with digits, a point and an exponent: its digits as one number, and the power
of ten that they are counted in. -/
def scientific? (text : List Char) : Option (Nat × Int) := do
  let mantissa := text.takeWhile fun c => c != 'e' && c != 'E'
  let whole := mantissa.takeWhile (· != '.')
  let fraction := (mantissa.dropWhile (· != '.')).drop 1
  let digits ← naturalIn? 10 (whole ++ fraction)
  let exponent : Int ←
    match text.dropWhile fun c => c != 'e' && c != 'E' with
    | [] => some 0
    | _ :: '-' :: rest => (naturalIn? 10 rest).map fun n => -(n : Int)
    | _ :: '+' :: rest => (naturalIn? 10 rest).map fun n => (n : Int)
    | _ :: rest => (naturalIn? 10 rest).map fun n => (n : Int)
  return (digits, exponent - fraction.length)

/-- The binary number nearest to a decimal number, unless it is out of range. -/
def nearestScientific? (digits : Nat) (exponent : Int) : Option Number.Binary64 :=
  let length := (Nat.toDigits 10 digits).length
  if digits = 0 ∨ length + exponent < -400 then some .zero
  else if 400 < length + exponent then none
  else if 0 ≤ exponent then Number.Binary64.nearest? (digits * tenPow exponent.toNat) 1
  else Number.Binary64.nearest? digits (tenPow (-exponent).toNat)

/-- What a scalar is where an amount is wanted. -/
inductive Amount
  | nothing
  | truth
  | whole (n : Int)
  | infinite
  | binary (negative : Bool) (magnitude : Number.Binary64)
  | text
  deriving DecidableEq, Repr

/-- Names of the numbers beyond all others, and of what is no number. -/
def isInfinite (text : String) : Bool :=
  [".inf", ".Inf", ".INF", "+.inf", "+.Inf", "+.INF", "-.inf", "-.Inf", "-.INF", ".nan", ".NaN",
    ".NAN"].contains text

/-- What a scalar is where an amount is wanted. -/
def amount (text : String) : Amount :=
  if isNull text then .nothing
  else if (bool? text).isSome then .truth
  else
    match int? text with
    | some n => .whole n
    | none =>
      if isZeroPadded text.toList then .text
      else if isInfinite text then .infinite
      else
        let (negative, rest) := match text.toList with
          | '-' :: rest => (true, rest)
          | '+' :: rest => (false, rest)
          | rest => (false, rest)
        match (scientific? rest).bind fun number => nearestScientific? number.1 number.2 with
        | some magnitude => .binary negative magnitude
        | none => .text

end Payslip.Yaml.Scalar
