/-
# Dividing amounts

Long division in steps of up to nine digits, for as long as the quotient and its scale stay in
range. What cannot be kept is rounded to the even neighbour. An inexact course of division
leaves zeros at the end of the fraction, which are removed in a few fixed strides only, so that
the scale of a quotient is part of what the division means: `6 / 12` is `0.50`.
-/

import Payslip.Decimal.Arithmetic

namespace Payslip.Decimal

/-- A quotient on its way: `digits / 10 ^ scale`, and whether it was extended past the point where
it would have been exact. The scale may still be negative. -/
structure Quotient where
  digits : Nat
  scale : Int
  extended : Bool
  deriving DecidableEq, Repr

namespace Quotient

/-- Takes one digit back from a quotient that has grown out of range. `sticky` tells whether
anything was lost below the digit. -/
def stepBack? (digits : Nat) (scale : Int) (extended sticky : Bool) : Option Quotient :=
  if scale - 1 < 0 then none
  else
    let kept := digits / 10
    let last := digits % 10
    let up := 5 < last ∨ (last = 5 ∧ (sticky = true ∨ kept % 2 = 1))
    some ⟨if up then kept + 1 else kept, scale - 1, extended⟩

/-- How many more digits, at most nine, the quotient has room for. -/
def room (digits : Nat) (scale : Int) : Nat :=
  ([9, 8, 7, 6, 5, 4, 3, 2, 1].find? fun n : Nat =>
    scale + n ≤ maxScale ∧ digits * tenPow n < bound).getD 0

/-- Rounds the last digit of the quotient by the remainder that is left. -/
def settle? (divisor digits remainder : Nat) (scale : Int) : Option Quotient :=
  let kept := if divisor < 2 * remainder ∨ (2 * remainder = divisor ∧ digits % 2 = 1)
    then digits + 1 else digits
  if kept < bound then some ⟨kept, scale, true⟩ else stepBack? kept scale true true

/-- The number of digits of the next step: those that a negative scale still lacks when nothing
remains to be divided, and otherwise as many as there is room for. -/
def stride (digits remainder : Nat) (scale : Int) : Nat :=
  if remainder = 0 then min 9 (-scale).toNat else room digits scale

/-- Divides on from a quotient and a remainder until nothing remains or no digit more fits. -/
def extend? (divisor digits remainder : Nat) (scale : Int) (extended : Bool) : Option Quotient :=
  if remainder = 0 ∧ 0 ≤ scale then some ⟨digits, scale, extended⟩
  else
    let step := stride digits remainder scale
    if scale < 0 ∧ step < 9 ∧ scale + step < 0 then none
    else if step = 0 then settle? divisor digits remainder scale
    else if scale + step ≤ maxScale then
      let shifted := digits * tenPow step
      if bound ≤ shifted then none
      else
        let carried := remainder * tenPow step
        let total := shifted + carried / divisor
        let rest := carried % divisor
        let inexact := extended || remainder != 0
        if bound ≤ total then stepBack? total (scale + step) inexact (rest != 0)
        else extend? divisor total rest (scale + step) inexact
    else none
termination_by (maxScale - scale).toNat
decreasing_by omega

/-- Removes `width` zeros from the end of the fraction once, when they are there. -/
def shed (width : Nat) (evenness : Nat) (digits scale : Nat) : Nat × Nat :=
  if digits % evenness = 0 ∧ width ≤ scale ∧ digits % tenPow width = 0 then
    (digits / tenPow width, scale - width)
  else (digits, scale)

/-- Removes zeros from the end of the fraction eight at a time, for as long as the last 32 binary
digits are zeros too. -/
def shedEights (digits scale : Nat) : Nat × Nat :=
  if digits % 4294967296 = 0 ∧ 8 ≤ scale ∧ digits % tenPow 8 = 0 then
    shedEights (digits / tenPow 8) (scale - 8)
  else (digits, scale)
termination_by scale

/-- Removes zeros from the end of the fraction: eights, then four, two and one at most once. -/
def trim (digits scale : Nat) : Nat × Nat :=
  let (digits, scale) := shedEights digits scale
  let (digits, scale) := shed 4 16 digits scale
  let (digits, scale) := shed 2 4 digits scale
  shed 1 2 digits scale

end Quotient

/-- The quotient; there is none for a zero divisor or out of range. -/
def div? (x y : Decimal) : Option Decimal :=
  if y.isZero then none
  else if x.isZero then some 0
  else
    let negative := x.negative != y.negative
    match Quotient.extend? y.coefficient (x.coefficient / y.coefficient)
        (x.coefficient % y.coefficient) ((x.scale : Int) - y.scale) false with
    | none => none
    | some quotient =>
      let (digits, scale) :=
        if quotient.extended then Quotient.trim quotient.digits quotient.scale.toNat
        else (quotient.digits, quotient.scale.toNat)
      build? (negative && digits != 0) digits scale

end Payslip.Decimal
