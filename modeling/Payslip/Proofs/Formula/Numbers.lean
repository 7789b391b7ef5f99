/-
# Formulas compute with numbers

Operators round, and how much they round hangs on the room that a result has. It does not
hang on how the operands are written: operands that are the same numbers have results that
are the same number, or none. This carries over to percentages and to whole formulas.
-/

import Payslip.Proofs.Alike
import Payslip.Proofs.Decimal.Quotient

namespace Payslip

open Outcome (Alike)

variable {x x' y y' : Decimal}

theorem Decimal.Alike.refl (x : Decimal) : x.Alike x := rfl

theorem Decimal.Alike.isZero_eq (alike : x.Alike x') : x'.isZero = x.isZero := by
  rw [Bool.eq_iff_iff, isZero_iff_toRat_eq_zero, isZero_iff_toRat_eq_zero, alike]

theorem Decimal.Alike.div? (first : x.Alike x') (second : y.Alike y') :
    (x'.div? y').map toRat = (x.div? y).map toRat := by
  by_cases zero : y.toRat = 0
  · have none : y.isZero = true := isZero_iff_toRat_eq_zero.mpr zero
    rw [Decimal.div?, Decimal.div?, if_pos none, if_pos (second.isZero_eq.trans none)]
  · rw [toRat_div? x zero, toRat_div? x' (fun none => zero (second.symm.trans none)), first, second]

/-- Every operator depends on the numbers of its operands only. -/
theorem Operator.toRat_result? (op : Operator) (first : x.Alike x') (second : y.Alike y') :
    (op.result? x' y').map Decimal.toRat = (op.result? x y).map Decimal.toRat := by
  cases op with
  | add => rw [result?, result?, Decimal.toRat_add?, Decimal.toRat_add?, first, second]
  | subtract => rw [result?, result?, Decimal.toRat_sub?, Decimal.toRat_sub?, first, second]
  | multiply => rw [result?, result?, Decimal.toRat_mul?, Decimal.toRat_mul?, first, second]
  | divide =>
      rw [result?, result?, second.isZero_eq]
      split
      · rfl
      · exact first.div? second

theorem Operator.apply_alike (op : Operator) (first : x.Alike x') (second : y.Alike y') :
    Alike Decimal.Alike (op.apply x y) (op.apply x' y') :=
  .ofOption _ _ _ _ (op.toRat_result? first second)

/-- A product that is divided depends on the numbers of its factors only. -/
theorem Decimal.Alike.mul?_div? (first : x.Alike x') (second : y.Alike y') (divisor : Decimal) :
    ((x'.mul? y').bind (·.div? divisor)).map toRat =
      ((x.mul? y).bind (·.div? divisor)).map toRat := by
  have product : (x'.mul? y').map toRat = (x.mul? y).map toRat := by
    rw [toRat_mul?, toRat_mul?, first, second]
  cases made : x.mul? y with
  | none =>
      cases made' : x'.mul? y' with
      | none => rfl
      | some _ =>
          rw [made, made'] at product
          cases product
  | some z =>
      cases made' : x'.mul? y' with
      | none =>
          rw [made, made'] at product
          cases product
      | some z' =>
          rw [made, made'] at product
          exact Decimal.Alike.div? (Option.some.inj product) (.refl divisor)

theorem percentOf_alike {base base' percent percent' : Decimal} (first : base.Alike base')
    (second : percent.Alike percent') :
    Alike Decimal.Alike (percentOf base percent) (percentOf base' percent') :=
  .ofOption _ _ _ _ (first.mul?_div? second (.ofWord 100))

namespace Formula

variable {operands operands' : List Decimal}

/-- The first operands correspond if missing ones do, which count as zero. -/
theorem rel_headD {same : Decimal → Decimal → Prop} (missing : same 0 0)
    (each : List.Forall₂ same operands operands') :
    same (operands.headD 0) (operands'.headD 0) := by
  cases each with
  | nil => exact missing
  | cons first _ => exact first

theorem rel_tail {same : Decimal → Decimal → Prop}
    (each : List.Forall₂ same operands operands') :
    List.Forall₂ same operands.tail operands'.tail := by
  cases each with
  | nil => exact .nil
  | cons _ rest => exact rest

theorem foldProducts_alike (operators : List Operator)
    (each : List.Forall₂ Decimal.Alike operands operands') :
    Alike (fun first second => List.Forall₂ Decimal.Alike first.1 second.1 ∧ second.2 = first.2)
      (foldProducts operands operators) (foldProducts operands' operators) := by
  induction operators generalizing operands operands' with
  | nil => exact .ok ⟨each, rfl⟩
  | cons op rest ih =>
      rw [foldProducts, foldProducts]
      split
      · apply (op.apply_alike (rel_headD (.refl 0) each) (rel_headD (.refl 0) (rel_tail each))).bind
        intro product product' alike
        exact ih (.cons alike (rel_tail (rel_tail each)))
      · apply (ih (rel_tail each)).bind
        intro summands summands' ⟨alike, same⟩
        exact .ok ⟨.cons (rel_headD (.refl 0) each) alike, congrArg (op :: ·) same⟩

theorem foldSums_alike (operators : List Operator) {total total' : Decimal}
    (start : total.Alike total') (each : List.Forall₂ Decimal.Alike operands operands') :
    Alike Decimal.Alike (foldSums total operands operators)
      (foldSums total' operands' operators) := by
  induction operators generalizing total total' operands operands' with
  | nil => exact .ok start
  | cons op rest ih =>
      rw [foldSums, foldSums]
      apply (op.apply_alike start (rel_headD (.refl 0) each)).bind
      intro sum sum' alike
      exact ih alike (rel_tail each)

/-- Operands that are the same numbers have the same value. -/
theorem reduce_alike (operators : List Operator)
    (each : List.Forall₂ Decimal.Alike operands operands') :
    Alike Decimal.Alike (reduce operands operators) (reduce operands' operators) := by
  rw [reduce, reduce]
  apply (foldProducts_alike operators each).bind
  rintro ⟨summands, ops⟩ ⟨summands', ops'⟩ ⟨alike, same⟩
  cases same
  exact foldSums_alike ops (rel_headD (.refl 0) alike) (rel_tail alike)

end Formula

end Payslip
