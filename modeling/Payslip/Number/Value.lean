/-
# The value of a written number

A whole number of up to 64 bits has its exact value. Every other number is a binary number: its
leading digits, as many as fit a word of 64 bits, are scaled by a power of ten in one or more
rounded steps. So the value need not be the binary number nearest to the written one.
-/

import Payslip.Decimal.Text
import Payslip.Number.Binary64
import Payslip.Reading.Document

namespace Payslip.Number

open Payslip.Reading

/-- What a written number stands for. -/
inductive Value
  | whole (n : Int)
  | binary (negative : Bool) (magnitude : Binary64)
  deriving DecidableEq, Repr

/-- Words stay below this bound, `2 ^ 64`. -/
def wordBound : Nat := 18446744073709551616

/-- Words with a sign stay below this bound, and do not go below its opposite: `2 ^ 63`. -/
def signedBound : Nat := 9223372036854775808

/-- Exponents that are written with a greater number are not computed with. -/
def greatestExponent : Nat := 2147483647

/-- Appends digits to a word for as long as it stays one. The second result is the number of digits
that were left over. -/
def fillWord (word : Nat) : List Char → Nat × Nat
  | [] => (word, 0)
  | c :: rest =>
    let next := word * 10 + (c.toNat - '0'.toNat)
    if next < wordBound then fillWord next rest else (word, rest.length + 1)

/-- The number that a run of digits stands for, if it is an exponent to be computed with. The run is
given up at the first digit that leads beyond it. -/
def exponentOfDigits? (digits : List Char) : Option Nat :=
  digits.foldlM (fun n c =>
    let next := n * 10 + (c.toNat - '0'.toNat)
    if next ≤ greatestExponent then some next else none) 0

/-- A rounded step multiplies or divides by at most this power of ten. -/
def stride : Nat := 308

/-- A binary number times a power of ten, in one rounded step. -/
def raise? (x : Binary64) (exponent : Nat) : Option Binary64 :=
  (Binary64.powerOfTen? exponent).bind x.mul?

/-- A binary number over a power of ten, in one rounded step. -/
def lower? (x : Binary64) (exponent : Nat) : Option Binary64 :=
  (Binary64.powerOfTen? exponent).bind x.div?

/-- A binary number times `10 ^ exponent`, in steps. There is none out of range. -/
def scale? (x : Binary64) (exponent : Int) : Option Binary64 :=
  if 0 ≤ exponent then
    if exponent.toNat ≤ stride then raise? x exponent.toNat
    else if x.significand = 0 then some x
    else none
  else
    let shrink := (-exponent).toNat
    down ((shrink - 1) / stride) x (shrink - (shrink - 1) / stride * stride)
where
  /-- Divides by so many strides and then by the rest, unless nothing is left before. -/
  down : (strides : Nat) → Binary64 → (rest : Nat) → Option Binary64
    | 0, x, rest => lower? x rest
    | strides + 1, x, rest =>
      if x.significand = 0 then some x
      else (lower? x stride).bind fun x => down strides x rest

/-- The leading digits of a number as a word, and the power of ten that they are counted in. Once
the whole part has filled the word, its other digits only count. -/
def leading (number : Reading.Number) : Nat × Int :=
  let (word, left) := fillWord 0 number.whole
  match number.fraction with
  | none => (word, left)
  | some fraction =>
    let (word, unused) := fillWord word fraction
    (word, (left : Int) - (fraction.length - unused : Nat))

/-- The binary number that a written number stands for, without its sign. -/
def magnitude? (number : Reading.Number) : Option Binary64 :=
  let (word, places) := leading number
  match number.exponent with
  | none => (Binary64.nearest? word 1).bind (scale? · places)
  | some (negative, digits) =>
    match exponentOfDigits? digits with
    | none => if word != 0 && !negative then none else some .zero
    | some exponent =>
      let exponent := if negative then places - exponent else places + exponent
      (Binary64.nearest? word 1).bind (scale? · exponent)

/-- The value of a written number; there is none out of range. A minus in front of a zero makes it
a binary number, since no whole number has a signed zero. -/
def value? (number : Reading.Number) : Option Value :=
  let (word, left) := fillWord 0 number.whole
  let isWhole := number.fraction.isNone && number.exponent.isNone && left == 0
  if isWhole && !number.negative then some (.whole word)
  else if isWhole && word != 0 && word ≤ signedBound then some (.whole (-(word : Int)))
  else (magnitude? number).map (.binary number.negative)

/-- The shortest decimal form of a binary number with its sign. -/
def Value.chars : Value → List Char
  | .whole n => (if n < 0 then ['-'] else []) ++ Nat.toDigits 10 n.natAbs
  | .binary negative magnitude => (if negative then ['-'] else []) ++ magnitude.chars

end Payslip.Number
