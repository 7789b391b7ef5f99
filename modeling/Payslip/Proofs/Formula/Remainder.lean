/-
# What is left of the monthly cost to company

The formula `ctc - a - b - …` takes amounts from the monthly cost to company, one after the other.
Every difference is rounded, but by no more than half a unit of a scale at which there is room for
all of them; so the value is off by at most as many halves as there are amounts
(`abs_foldSums_sub_le`). The bound on the sizes carries the induction: a rounded difference has to
leave room for the next one.
-/

import Payslip.Proofs.Breakdown.ExactSums
import Payslip.Proofs.Evaluation.Growth

namespace Payslip

open Decimal

namespace Decimal

/-- Half a unit of a scale. -/
def halfUnit (scale : ℕ) : ℚ := 1 / (2 * tenPow scale)

theorem halfUnit_nonneg (scale : ℕ) : 0 ≤ halfUnit scale := by
  have power := tenPow_cast_pos scale
  rw [halfUnit]
  positivity

/-- A difference is off by at most half a unit of a scale at which both amounts have room. -/
theorem abs_toRat_of_sub?_le {x y difference : Decimal} {scale : ℕ} (inScale : scale ≤ maxScale)
    (room : Fits (|x.toRat| + |y.toRat|) scale) (subtracted : x.sub? y = some difference) :
    |difference.toRat - (x.toRat - y.toRat)| ≤ halfUnit scale := by
  have fits : Fits (x.toRat - y.toRat) scale := by
    exact room.of_abs_le ((abs_sub x.toRat y.toRat).trans (le_abs_self _))
  rw [toRat_eq_nearestTo (toRat_sub? x y) subtracted, abs_sub_comm]
  exact abs_sub_nearestTo_le inScale fits

end Decimal

namespace Formula

section Chain

variable {operands amounts : List Decimal} {operators : List Operator} {total result : Decimal}
  {scale : ℕ}

/-- The first pass has nothing to do where there are only additions and subtractions. -/
theorem foldProducts_of_loose (loose : ∀ op ∈ operators, op.bindsTighter = false)
    (complete : operands.length = operators.length + 1) :
    foldProducts operands operators = .ok (operands, operators) := by
  induction operators generalizing operands with
  | nil => rw [foldProducts]
  | cons op rest ih =>
      obtain ⟨here, others⟩ := List.forall_mem_cons.mp loose
      obtain ⟨operand, behind, rfl⟩ := List.exists_cons_of_length_eq_add_one complete
      rw [foldProducts, here, if_neg Bool.false_ne_true, List.tail_cons,
        ih others (Nat.succ.inj complete)]
      rfl

theorem reduce_of_loose (loose : ∀ op ∈ operators, op.bindsTighter = false)
    (complete : operands.length = operators.length) (first : Decimal) :
    reduce (first :: operands) operators = foldSums first operands operators := by
  rw [reduce, foldProducts_of_loose loose (congrArg (· + 1) complete)]
  rfl

/-- A chain of differences is off by at most half a unit for each of them, at a scale at which there
is room for the whole chain. -/
theorem abs_foldSums_sub_le (inScale : scale ≤ maxScale)
    (room : Fits (|total.toRat| + absoluteSum amounts + amounts.length * halfUnit scale) scale)
    (computed : foldSums total amounts (List.replicate amounts.length .subtract) = .ok result) :
    |result.toRat - (total.toRat - exactSum amounts)| ≤ amounts.length * halfUnit scale := by
  induction amounts generalizing total with
  | nil =>
      cases computed
      simp [exactSum]
  | cons amount rest ih =>
      obtain ⟨next, subtracted, onward⟩ := Outcome.bind_eq_ok_iff.mp computed
      have half := halfUnit_nonneg scale
      have others := absoluteSum_nonneg rest
      have behind : 0 ≤ rest.length * halfUnit scale := mul_nonneg (Nat.cast_nonneg _) half
      simp only [absoluteSum_cons, exactSum_cons, List.length_cons, Nat.cast_add, Nat.cast_one,
        add_mul, one_mul] at room ⊢
      have narrower {v : ℚ} (nonneg : 0 ≤ v) (less : v ≤ |total.toRat| +
          (|amount.toRat| + absoluteSum rest) + (rest.length * halfUnit scale + halfUnit scale)) :
          Fits v scale := by
        refine room.of_abs_le ?_
        rwa [abs_of_nonneg nonneg, abs_of_nonneg (nonneg.trans less)]
      have here : Fits (|total.toRat| + |amount.toRat|) scale :=
        narrower (by positivity) (by linarith)
      have off := abs_toRat_of_sub?_le inScale here (Operator.apply_eq_ok_iff.mp subtracted)
      have size := abs_sub_abs_le_abs_sub next.toRat (total.toRat - amount.toRat)
      have parts := abs_sub total.toRat amount.toRat
      -- the rounded difference leaves room for the rest of the chain
      have later := ih (narrower (by positivity) (by linarith)) onward
      calc |result.toRat - (total.toRat - (amount.toRat + exactSum rest))|
          = |(result.toRat - (next.toRat - exactSum rest)) +
              (next.toRat - (total.toRat - amount.toRat))| := by ring_nf
        _ ≤ |result.toRat - (next.toRat - exactSum rest)| +
              |next.toRat - (total.toRat - amount.toRat)| := abs_add_le _ _
        _ ≤ rest.length * halfUnit scale + halfUnit scale := add_le_add later off

end Chain

/-! ## The formula -/

/-- The terms of what some components leave of the monthly cost to company. -/
def remainder (others : List Component) : List Term :=
  .value .ctc :: others.flatMap fun other =>
    [.operator .subtract, .value (.component other.id)]

theorem operators_remainder (others : List Component) :
    Formula.operators (remainder others) = List.replicate others.length .subtract := by
  have behind : Formula.operators (others.flatMap fun other =>
      [.operator .subtract, .value (.component other.id)]) =
        List.replicate others.length .subtract := by
    induction others with
    | nil => rfl
    | cons other rest ih => exact congrArg (Operator.subtract :: ·) ih
  exact behind

theorem componentIds_remainder (others : List Component) :
    (remainder others).filterMap Term.componentId? = others.map (·.id) := by
  induction others with
  | nil => rfl
  | cons other rest ih => exact congrArg (other.id :: ·) ih

section Value

variable {monthly : Decimal} {ask : String → Except PayError (Option Decimal)}
  {others : List Component} {full : Component → Decimal}

theorem operands_remainder (answered : ∀ other ∈ others, ask other.id = .ok (some (full other))) :
    operands monthly ask (remainder others) = .ok (monthly :: others.map full) := by
  have behind : operands monthly ask (others.flatMap fun other =>
      [.operator .subtract, .value (.component other.id)]) = .ok (others.map full) := by
    induction others with
    | nil => rfl
    | cons other rest ih =>
        obtain ⟨here, later⟩ := List.forall_mem_cons.mp answered
        simp only [List.flatMap_cons, List.cons_append, List.nil_append, operands, operand?,
          Reference.amount, here, ih later, List.map_cons]
        rfl
  simp only [remainder, operands, operand?, Reference.amount, behind]
  rfl

/-- The value of the formula is the chain of differences. -/
theorem value_remainder (answered : ∀ other ∈ others, ask other.id = .ok (some (full other))) :
    value monthly ask (remainder others) =
      foldSums monthly (others.map full) (List.replicate (others.map full).length .subtract) := by
  have loose : ∀ op ∈ List.replicate (others.map full).length Operator.subtract,
      op.bindsTighter = false := by
    intro op listed
    rw [List.eq_of_mem_replicate listed]
    rfl
  have complete : (others.map full).length =
      (List.replicate (others.map full).length Operator.subtract).length :=
    List.length_replicate.symm
  rw [value, operands_remainder answered, operators_remainder, ← List.length_map full,
    Outcome.ok_bind, reduce_of_loose loose complete]
  cases foldSums monthly (others.map full) _ <;> rfl

end Value

end Formula

end Payslip
