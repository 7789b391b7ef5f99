/-
# Binary64 numbers

Numbers with a fraction or an exponent pass through a binary number of 64 bits before they are
read as amounts. This module has what that takes, in exact arithmetic: the nearest binary number
to a fraction, products and quotients, and the shortest decimal digits that stand for a binary
number. Signs are left to the callers.
-/

import Payslip.Decimal.Rounding
import Payslip.Number.Power

namespace Payslip.Number

/-- A finite binary number that is not negative, `significand * 2 ^ exponent`. -/
structure Binary64 where
  significand : Nat
  exponent : Int
  deriving DecidableEq, Repr

namespace Binary64

/-- The least exponent. -/
def minExponent : Int := -1074

/-- The greatest exponent. -/
def maxExponent : Int := 971

/-- Zero. -/
def zero : Binary64 := ⟨0, minExponent⟩

/-- The greatest `k` with `2 ^ k ≤ n / d`, for positive `n` and `d`. -/
def floorLog2 (n d : Nat) : Int :=
  let k : Int := (Nat.log2 n : Int) - Nat.log2 d
  let reached := if 0 ≤ k then d * twoPow k.toNat ≤ n else d ≤ n * twoPow (-k).toNat
  if reached then k else k - 1

/-- The binary number nearest to `n / d`, a half going to the even neighbour. There is none beyond
the greatest binary number. -/
def nearest? (n d : Nat) : Option Binary64 :=
  if n = 0 then some zero
  else
    let exponent := max (floorLog2 n d - 52) minExponent
    let kept := if 0 ≤ exponent then Rounding.halfEven n (d * twoPow exponent.toNat)
      else Rounding.halfEven (n * twoPow (-exponent).toNat) d
    let (kept, exponent) := if kept = twoPow 53 then (twoPow 52, exponent + 1) else (kept, exponent)
    if maxExponent < exponent then none else some ⟨kept, exponent⟩

/-- The binary number nearest to `n / d * 2 ^ exponent`. -/
def nearestScaled? (n d : Nat) (exponent : Int) : Option Binary64 :=
  if 0 ≤ exponent then nearest? (n * twoPow exponent.toNat) d
  else nearest? n (d * twoPow (-exponent).toNat)

/-- The product, rounded. -/
def mul? (x y : Binary64) : Option Binary64 :=
  nearestScaled? (x.significand * y.significand) 1 (x.exponent + y.exponent)

/-- The quotient, rounded; the divisor is not zero. -/
def div? (x y : Binary64) : Option Binary64 :=
  nearestScaled? x.significand y.significand (x.exponent - y.exponent)

/-- The binary number nearest to a power of ten. -/
def powerOfTen? (exponent : Nat) : Option Binary64 := nearest? (tenPow exponent) 1

/-- Decimal digits with the power of ten of the last one. -/
structure Digits where
  coefficient : Nat
  exponent : Int
  deriving DecidableEq, Repr

/-- The point of the grid of multiples of `10 ^ exponent` that lies nearest to a binary number, if
one lies so near that the binary number is the nearest to it. Of two that are as near the upper
one is taken. -/
def onGrid? (x : Binary64) (exponent : Int) : Option Digits :=
  -- In quarters of the last binary place: the number and the ends of its interval.
  let middle := 4 * x.significand
  let low := if x.significand = twoPow 52 then middle - 1 else middle - 2
  let high := middle + 2
  let binary := x.exponent - 2
  -- A point `c` of the grid is as large as `q` quarters when `c * left = q * right`.
  let left := tenPow exponent.toNat * twoPow (-binary).toNat
  let right := twoPow binary.toNat * tenPow (-exponent).toNat
  let inside (c : Nat) : Bool :=
    if x.significand % 2 = 0 then low * right ≤ c * left && c * left ≤ high * right
    else low * right < c * left && c * left < high * right
  let below := middle * right / left
  let belowNearer := 2 * (middle * right % left) < left
  if inside below && (belowNearer || !inside (below + 1)) then some ⟨below, exponent⟩
  else if inside (below + 1) then some ⟨below + 1, exponent⟩
  else none

/-- The coarsest grid with a point for the binary number, among those from `exponent` down. -/
def coarsest (x : Binary64) (exponent : Int) : (steps : Nat) → Digits
  | 0 => ⟨0, 0⟩
  | steps + 1 =>
    match onGrid? x exponent with
    | some digits => digits
    | none => coarsest x (exponent - 1) steps

/-- The fewest decimal digits for which the binary number is the nearest, and of those the digits
nearest to it. Grids coarser than `10 ^ 309` have no point near any binary number but zero, and
on the grid of `10 ^ -342` every one has a point. -/
def shortest (x : Binary64) : Digits :=
  if x.significand = 0 then ⟨0, 0⟩ else coarsest x 309 652

/-- Decimal digits written without an exponent. -/
def Digits.positional (digits : Digits) : List Char :=
  let run := Nat.toDigits 10 digits.coefficient
  if 0 ≤ digits.exponent then run ++ List.replicate digits.exponent.toNat '0'
  else
    let places := (-digits.exponent).toNat
    let padded := List.replicate (places + 1 - run.length) '0' ++ run
    padded.take (padded.length - places) ++ '.' :: padded.drop (padded.length - places)

/-- A binary number in its shortest decimal form, without an exponent. -/
def chars (x : Binary64) : List Char := x.shortest.positional

end Binary64

end Payslip.Number
