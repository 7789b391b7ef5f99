/-
# How arithmetic on amounts can fail

Amounts are bounded, so a percentage, an operator or a whole formula may have no
result. This module says that nothing else can go wrong with them: whatever error
the arithmetic of a formula raises is a `PayError.calculation`. In particular it
never raises a circular reference, which only following references can do. Zeros are
always in range: `reduce_zeros` has no error at all, whatever the operators are.
-/

import Payslip.Formula.Reduction
import Payslip.Proofs.Outcome

namespace Payslip

theorem percentOf_failsInCalculation (base percent : Decimal) :
    FailsInCalculation (percentOf base percent) := by
  rw [percentOf]
  split
  · exact .ok _
  · exact .fault _

/-- An operator fails only out of range; dividing by zero is no failure. -/
theorem Operator.apply_failsInCalculation (op : Operator) (left right : Decimal) :
    FailsInCalculation (op.apply left right) := by
  rw [Operator.apply]
  split
  · exact .ok _
  · exact .fault _

namespace Formula

theorem foldProducts_failsInCalculation (operands : List Decimal) (operators : List Operator) :
    FailsInCalculation (foldProducts operands operators) := by
  induction operators generalizing operands with
  | nil => exact .ok _
  | cons op rest ih =>
      rw [foldProducts]
      split
      · exact (op.apply_failsInCalculation _ _).bind fun product => ih _
      · exact (ih operands.tail).bind fun summands => .ok _

theorem foldSums_failsInCalculation (total : Decimal) (operands : List Decimal)
    (operators : List Operator) : FailsInCalculation (foldSums total operands operators) := by
  induction operators generalizing total operands with
  | nil => exact .ok _
  | cons op rest ih =>
      rw [foldSums]
      exact (op.apply_failsInCalculation _ _).bind fun total => ih total operands.tail

/-- Operands and operators of any number have a value or are out of range. -/
theorem reduce_failsInCalculation (operands : List Decimal) (operators : List Operator) :
    FailsInCalculation (reduce operands operators) := by
  rw [reduce]
  exact (foldProducts_failsInCalculation operands operators).bind
    fun summands => foldSums_failsInCalculation _ _ _

end Formula

/-! ## Arithmetic that never leaves zero -/

theorem monthlyShare_zero : monthlyShare 0 = 0 := rfl

theorem percentOf_zero : percentOf 0 0 = .ok 0 := rfl

theorem Operator.apply_zero (op : Operator) : op.apply 0 0 = .ok 0 := by
  cases op <;> rfl

namespace Formula

variable {operands : List Decimal}

private theorem headD_zero (zeros : ∀ operand ∈ operands, operand = 0) :
    operands.headD 0 = 0 := by
  cases operands with
  | nil => rfl
  | cons operand rest => exact zeros operand List.mem_cons_self

private theorem tail_zeros (zeros : ∀ operand ∈ operands, operand = 0) :
    ∀ operand ∈ operands.tail, operand = 0 :=
  fun operand listed => zeros operand (List.mem_of_mem_tail listed)

theorem exists_foldProducts_zeros (operators : List Operator)
    (zeros : ∀ operand ∈ operands, operand = 0) :
    ∃ summands ops, foldProducts operands operators = .ok (summands, ops) ∧
      ∀ summand ∈ summands, summand = 0 := by
  induction operators generalizing operands with
  | nil => exact ⟨operands, [], rfl, zeros⟩
  | cons op rest ih =>
      have behind := tail_zeros zeros
      rw [foldProducts, headD_zero zeros, headD_zero behind]
      split
      · rw [op.apply_zero]
        exact ih (List.forall_mem_cons.mpr ⟨rfl, tail_zeros behind⟩)
      · obtain ⟨summands, ops, folded, each⟩ := ih behind
        refine ⟨0 :: summands, op :: ops, ?_, List.forall_mem_cons.mpr ⟨rfl, each⟩⟩
        rw [folded]
        rfl

theorem foldSums_zeros (operators : List Operator)
    (zeros : ∀ operand ∈ operands, operand = 0) : foldSums 0 operands operators = .ok 0 := by
  induction operators generalizing operands with
  | nil => rw [foldSums]
  | cons op rest ih =>
      rw [foldSums, headD_zero zeros, op.apply_zero]
      exact ih (tail_zeros zeros)

/-- A formula over zeros is zero, well formed or not. -/
theorem reduce_zeros (operators : List Operator) (zeros : ∀ operand ∈ operands, operand = 0) :
    reduce operands operators = .ok 0 := by
  obtain ⟨summands, ops, folded, each⟩ := exists_foldProducts_zeros operators zeros
  rw [reduce, folded]
  show foldSums (summands.headD 0) summands.tail ops = .ok 0
  rw [headD_zero each]
  exact foldSums_zeros ops (tail_zeros each)

end Formula

end Payslip
