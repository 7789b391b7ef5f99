/-
# Sums that are exact

Adding amounts rounds as soon as a sum has more digits than an amount can hold, and then it
matters in which order they are added. Amounts in cents are safe from this as long as their
absolute values add up to less than `2 ^ 96 / 100`: every partial sum is a whole number of
cents that is in range. Such a sum is exact, and so is the total that is made of it.
-/

import Mathlib.Algebra.Order.BigOperators.Group.List
import Payslip.Proofs.Alike
import Payslip.Proofs.Breakdown.Amounts
import Payslip.Proofs.Decimal.Nearest

namespace Payslip

/-- The sum of amounts as numbers. -/
def exactSum (amounts : List Decimal) : ℚ := (amounts.map Decimal.toRat).sum

/-- The sum of the absolute values of amounts. -/
def absoluteSum (amounts : List Decimal) : ℚ := (amounts.map fun amount => |amount.toRat|).sum

@[simp]
theorem exactSum_cons (amount : Decimal) (rest : List Decimal) :
    exactSum (amount :: rest) = amount.toRat + exactSum rest := rfl

@[simp]
theorem absoluteSum_cons (amount : Decimal) (rest : List Decimal) :
    absoluteSum (amount :: rest) = |amount.toRat| + absoluteSum rest := rfl

theorem absoluteSum_append (amounts others : List Decimal) :
    absoluteSum (amounts ++ others) = absoluteSum amounts + absoluteSum others := by
  rw [absoluteSum, List.map_append, List.sum_append]
  rfl

theorem absoluteSum_nonneg (amounts : List Decimal) : 0 ≤ absoluteSum amounts := by
  apply List.sum_nonneg
  intro magnitude listed
  obtain ⟨amount, -, rfl⟩ := List.mem_map.mp listed
  exact abs_nonneg amount.toRat

theorem abs_exactSum_le (amounts : List Decimal) : |exactSum amounts| ≤ absoluteSum amounts := by
  induction amounts with
  | nil => exact abs_zero.le
  | cons amount rest ih =>
      rw [exactSum_cons, absoluteSum_cons]
      have triangle := abs_add_le amount.toRat (exactSum rest)
      linarith

theorem exactSum_perm {amounts shuffled : List Decimal} (same : amounts.Perm shuffled) :
    exactSum shuffled = exactSum amounts := (same.map _).sum_eq.symm

theorem absoluteSum_perm {amounts shuffled : List Decimal} (same : amounts.Perm shuffled) :
    absoluteSum shuffled = absoluteSum amounts := (same.map _).sum_eq.symm

/-- Amounts in cents have a sum, and it is exact, if it is in range as a whole number of cents. -/
theorem exists_add?_of_cents {x y : Decimal} (left : x.scale ≤ 2) (right : y.scale ≤ 2)
    (small : |x.toRat + y.toRat| < 2 ^ 96 / 100) :
    ∃ sum, x.add? y = some sum ∧ sum.toRat = x.toRat + y.toRat := by
  have cents : (x.toRat + y.toRat) * tenPow 2 =
      (x.units * tenPow (2 - x.scale) + y.units * tenPow (2 - y.scale) : ℤ) := by
    rw [Int.cast_add, Decimal.units_mul_tenPow left, Decimal.units_mul_tenPow right, add_mul]
  have inRange : |x.units * tenPow (2 - x.scale) + y.units * tenPow (2 - y.scale)| <
      (Decimal.bound : ℤ) := by
    have scaled : |(x.toRat + y.toRat) * tenPow 2| < (Decimal.bound : ℚ) := by
      rw [abs_mul, abs_of_pos (tenPow_cast_pos 2)]
      norm_num [tenPow_eq_pow, Decimal.bound] at small ⊢
      linarith
    rw [cents] at scaled
    exact_mod_cast scaled
  have nearest := Decimal.toRat_add? x y
  rw [Decimal.nearest?_of_exact (by decide) cents inRange] at nearest
  exact Option.map_eq_some_iff.mp nearest

/-- Partial sums stay exact, whatever part of the room has been used up before. -/
theorem exists_foldlM_add?_of_cents {amounts : List Decimal}
    (inCents : ∀ amount ∈ amounts, amount.scale ≤ 2) {total : Decimal}
    (begun : total.scale ≤ 2) (small : |total.toRat| + absoluteSum amounts < 2 ^ 96 / 100) :
    ∃ sum, amounts.foldlM Decimal.add? total = some sum ∧ sum.scale ≤ 2 ∧
      sum.toRat = total.toRat + exactSum amounts := by
  induction amounts generalizing total with
  | nil => exact ⟨total, rfl, begun, (add_zero _).symm⟩
  | cons amount rest ih =>
      rw [absoluteSum_cons] at small
      have here := inCents amount List.mem_cons_self
      have later := fun other listed => inCents other (List.mem_cons_of_mem amount listed)
      have triangle := abs_add_le total.toRat amount.toRat
      have remaining := absoluteSum_nonneg rest
      obtain ⟨next, added, next_eq⟩ := exists_add?_of_cents begun here (by linarith)
      have room : |next.toRat| + absoluteSum rest < 2 ^ 96 / 100 := by
        rw [next_eq]
        linarith
      obtain ⟨sum, reached, fine, sum_eq⟩ :=
        ih later (Decimal.scale_le_of_add? begun here added) room
      refine ⟨sum, ?_, fine, ?_⟩
      · rw [List.foldlM_cons, added]
        exact reached
      · rw [sum_eq, next_eq, exactSum_cons, add_assoc]

/-- Amounts in whole cents, small enough for all of their sums to be in range. -/
structure AddExactly (amounts : List Decimal) : Prop where
  inCents : ∀ amount ∈ amounts, amount.scale ≤ 2
  small : absoluteSum amounts < 2 ^ 96 / 100

namespace AddExactly

variable {amounts : List Decimal}

theorem perm {shuffled : List Decimal} (exactly : AddExactly amounts)
    (same : amounts.Perm shuffled) : AddExactly shuffled where
  inCents := fun amount listed => exactly.inCents amount (same.mem_iff.mpr listed)
  small := by
    rw [absoluteSum_perm same]
    exact exactly.small

/-- The total of amounts that add exactly is their exact sum. -/
theorem exists_sumToCents (exactly : AddExactly amounts) :
    ∃ total, sumToCents amounts = .ok total ∧ total.toRat = exactSum amounts := by
  have small : |Decimal.toRat 0| + absoluteSum amounts < 2 ^ 96 / 100 := by
    rw [Decimal.toRat_zero, abs_zero, zero_add]
    exact exactly.small
  obtain ⟨sum, added, fine, sum_eq⟩ :=
    exists_foldlM_add?_of_cents exactly.inCents (Nat.zero_le 2) small
  refine ⟨roundToCents sum, sumToCents_eq_ok_iff.mpr ⟨sum, added, rfl⟩, ?_⟩
  rw [roundToCents, Decimal.roundTo, dif_pos fine, sum_eq, Decimal.toRat_zero, zero_add]

/-- In another order they have the same total, as a number. -/
theorem exists_sumToCents_perm {shuffled : List Decimal} {total : Decimal}
    (exactly : AddExactly amounts) (same : amounts.Perm shuffled)
    (summed : sumToCents amounts = .ok total) :
    ∃ again, sumToCents shuffled = .ok again ∧ total.Alike again := by
  obtain ⟨first, reached, first_eq⟩ := exactly.exists_sumToCents
  obtain ⟨again, reached', again_eq⟩ := (exactly.perm same).exists_sumToCents
  cases reached.symm.trans summed
  refine ⟨again, reached', ?_⟩
  rw [Decimal.Alike, again_eq, first_eq, exactSum_perm same]

-- Without room for every partial sum the order decides whether there is a total at all.
example :
    (sumToCents [.mk false (2 ^ 96 - 1) 0, .mk false 1 0, .mk true 1 0]).toOption = none ∧
      (sumToCents [.mk false 1 0, .mk true 1 0, .mk false (2 ^ 96 - 1) 0]).toOption =
        some (.mk false (2 ^ 96 - 1) 0) := by
  decide +kernel

end AddExactly

end Payslip
