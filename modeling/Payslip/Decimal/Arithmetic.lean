/-
# Adding and multiplying amounts

An exact result that does not fit loses digits at its end, as few as possible, with a half going
to the even neighbour. It has no result at all when its whole part is out of range.
-/

import Payslip.Decimal.Basic
import Payslip.Decimal.Rounding

namespace Payslip.Decimal

/-- How many digits a total of the given scale has to lose: as few as possible, at least those
beyond the greatest scale, and never more than there are after the point. -/
def excess? (total scale : Nat) : Option Nat :=
  (List.range' (scale - maxScale) (scale + 1 - (scale - maxScale))).find? fun dropped =>
    total / tenPow dropped < bound

/-- The amount nearest to `total / 10 ^ scale` that fits, a half going to the even neighbour.
There is none when the whole part alone is out of range. -/
def fit? (negative : Bool) (total scale : Nat) : Option Decimal :=
  match excess? total scale with
  | none => none
  | some dropped =>
    let kept := Rounding.halfEven total (tenPow dropped)
    if kept < bound then build? negative kept (scale - dropped)
    else if scale ≤ dropped then none
    else build? negative (Rounding.halfEven kept 10) (scale - (dropped + 1))

/-- The sum. A zero on either side gives the other amount as it is; otherwise the result has the
greater scale, or as much of it as fits. -/
def add? (x y : Decimal) : Option Decimal :=
  if x.isZero then some y
  else if y.isZero then some x
  else
    let scale := max x.scale y.scale
    let sum := x.units * tenPow (scale - x.scale) + y.units * tenPow (scale - y.scale)
    fit? (sum < 0) sum.natAbs scale

/-- The difference: the sum with the second amount negated. -/
def sub? (x y : Decimal) : Option Decimal := add? x y.negate

/-- Coefficients below this bound are multiplied in one step. -/
def shortBound : Nat := 4294967296

/-- Products of short coefficients with a greater scale than this vanish. -/
def vanishingScale : Nat := 47

/-- The product. Its scale is the sum of the scales, or as much of it as fits. Rounding a product
of short coefficients to zero drops the sign, rounding any other keeps it. -/
def mul? (x y : Decimal) : Option Decimal :=
  if x.isZero || y.isZero then some 0
  else
    let negative := x.negative != y.negative
    let product := x.coefficient * y.coefficient
    let scale := x.scale + y.scale
    if x.coefficient < shortBound ∧ y.coefficient < shortBound then
      if vanishingScale < scale then some 0
      else if maxScale < scale then
        let kept := Rounding.halfEven product (tenPow (scale - maxScale))
        build? (negative && kept != 0) kept maxScale
      else build? negative product scale
    else fit? negative product scale

/-- A coefficient that loses digits stays in range, whichever way the last one is rounded. -/
theorem halfUp_lt_bound {coefficient dropped : Nat} (inRange : coefficient < bound)
    (some_dropped : 0 < dropped) : Rounding.halfUp coefficient (tenPow dropped) < bound := by
  have rounded := Rounding.halfUp_le coefficient (tenPow dropped)
  have tenth : coefficient / tenPow dropped ≤ coefficient / 10 :=
    Nat.div_le_div_left (ten_le_tenPow some_dropped) (by decide)
  unfold bound at *
  omega

/-- The amount with at most the given number of digits after the point, a half going away from
zero. An amount that has no more digits stays as it is. -/
def roundTo (places : Nat) (x : Decimal) : Decimal :=
  if h : x.scale ≤ places then x
  else
    have inScale : places ≤ maxScale := Nat.le_trans (Nat.le_of_not_le h) x.scale_le
    if x.isZero then ⟨x.negative, 0, places, bound_pos, inScale⟩
    else
      let kept := Rounding.halfUp x.coefficient (tenPow (x.scale - places))
      ⟨x.negative && kept != 0, kept, places,
        halfUp_lt_bound x.coefficient_lt (Nat.sub_pos_of_lt (Nat.lt_of_not_le h)), inScale⟩

end Payslip.Decimal
