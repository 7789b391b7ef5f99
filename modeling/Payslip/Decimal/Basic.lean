/-
# Decimal amounts

Money is kept as a signed whole number below `2 ^ 96` over a power of ten of at most
`10 ^ 28`. The scale is part of an amount: `1.5` and `1.50` are the same number and
different amounts, and every operation of the library says which scale its result has.
A zero may carry a sign, which only its written form shows.
-/

import Payslip.Number.Power

namespace Payslip

/-- Coefficients stay below this bound, `2 ^ 96`. -/
def Decimal.bound : Nat := 79228162514264337593543950336

theorem Decimal.bound_pos : 0 < bound := by decide

/-- The greatest number of digits after the point. -/
def Decimal.maxScale : Nat := 28

/-- A decimal amount, `coefficient / 10 ^ scale` with a sign in front. -/
structure Decimal where
  negative : Bool
  coefficient : Nat
  scale : Nat
  coefficient_lt : coefficient < Decimal.bound := by decide
  scale_le : scale ≤ Decimal.maxScale := by decide
  deriving DecidableEq, Repr

namespace Decimal

/-- Zero without a sign and without digits after the point. -/
def zero : Decimal := ⟨false, 0, 0, bound_pos, Nat.zero_le _⟩

instance : OfNat Decimal 0 := ⟨zero⟩
instance : Inhabited Decimal := ⟨zero⟩

/-- The amount with these parts, when they are in range. -/
def build? (negative : Bool) (coefficient scale : Nat) : Option Decimal :=
  if h : coefficient < bound ∧ scale ≤ maxScale then
    some ⟨negative, coefficient, scale, h.1, h.2⟩
  else none

/-- A whole number as an amount without digits after the point. -/
def ofInt? (n : Int) : Option Decimal := build? (n < 0) n.natAbs 0

/-- A word of 32 bits is always in range. -/
def ofWord (n : UInt32) : Decimal :=
  ⟨false, n.toNat, 0, by have := n.toNat_lt; unfold bound; omega, Nat.zero_le _⟩

/-- The amount is a zero, signed or not. -/
def isZero (x : Decimal) : Bool := x.coefficient == 0

/-- The amount lies below zero; a zero with a sign does not. -/
def isNegative (x : Decimal) : Bool := x.negative && !x.isZero

/-- The coefficient with its sign: the amount in units of `10 ^ -scale`. -/
def units (x : Decimal) : Int := if x.negative then -(x.coefficient : Int) else x.coefficient

/-- The number that the amount stands for, whatever its scale. -/
def toRat (x : Decimal) : Rat := mkRat x.units (tenPow x.scale)

/-- The amount with the opposite sign; a zero stays as it is. -/
def negate (x : Decimal) : Decimal :=
  if x.isZero then x else { x with negative := !x.negative }

/-- The same number with as few digits after the point as it needs, a zero without a sign. -/
def normalize (x : Decimal) : Decimal :=
  if x.isZero then 0 else strip x.negative x.coefficient x.scale x.coefficient_lt x.scale_le
where
  /-- Drops one zero after the other from the end of the fraction. -/
  strip (negative : Bool) (coefficient : Nat) :
      (scale : Nat) → coefficient < bound → scale ≤ maxScale → Decimal
    | 0, hc, _ => ⟨negative, coefficient, 0, hc, Nat.zero_le _⟩
    | scale + 1, hc, hs =>
      if coefficient % 10 = 0 then
        strip negative (coefficient / 10) scale (by omega) (by omega)
      else ⟨negative, coefficient, scale + 1, hc, hs⟩

theorem build?_eq_some_iff {negative : Bool} {coefficient scale : Nat} {x : Decimal} :
    build? negative coefficient scale = some x ↔
      x.negative = negative ∧ x.coefficient = coefficient ∧ x.scale = scale := by
  unfold build?
  constructor
  · intro h
    split at h
    · cases h; simp
    · cases h
  · rintro ⟨rfl, rfl, rfl⟩
    exact dif_pos ⟨x.coefficient_lt, x.scale_le⟩

@[simp] theorem isZero_zero : isZero 0 = true := rfl

@[simp] theorem negate_of_isZero {x : Decimal} (h : x.isZero = true) : x.negate = x := by
  simp [negate, h]

end Decimal

end Payslip
