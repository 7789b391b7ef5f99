/-
# Rounding to whole numbers

Amounts are rounded by looking at a quotient and its remainder. Here the same is said of
the number itself, so that the result of rounding depends on nothing else: `nearestEven`
for the rounding of arithmetic and `nearestAway` for that of money.

The first is the only whole number that lies near enough, which `nearestEven_eq_iff` makes the way
to recognize it.
-/

import Mathlib.Algebra.Order.Round
import Payslip.Decimal.Rounding
import Payslip.Proofs.Decimal.Value

namespace Payslip

/-- The whole number nearest to a number, a half going to the even neighbour. -/
def nearestEven (v : ℚ) : ℤ :=
  if Int.fract v < 1 / 2 ∨ (Int.fract v = 1 / 2 ∧ Even ⌊v⌋) then ⌊v⌋ else ⌊v⌋ + 1

/-- The whole number nearest to a number, a half going away from zero. -/
def nearestAway (v : ℚ) : ℤ := if 0 ≤ v then ⌊v + 1 / 2⌋ else -⌊-v + 1 / 2⌋

variable {v : ℚ} {n : ℤ}

/-- Whole numbers that are both nearest to a number, and both even when it lies in the middle, are
the same. -/
private theorem eq_of_near {m : ℤ} (first : |v - n| < 1 / 2 ∨ (|v - n| = 1 / 2 ∧ Even n))
    (second : |v - m| < 1 / 2 ∨ (|v - m| = 1 / 2 ∧ Even m)) : n = m := by
  have distance : |(n : ℚ) - m| ≤ |v - n| + |v - m| := by
    rw [abs_sub_comm v n]
    exact abs_sub_le _ _ _
  by_contra different
  have apart : (1 : ℚ) ≤ |(n : ℚ) - m| := by
    exact_mod_cast Int.one_le_abs (sub_ne_zero.mpr different)
  -- so far apart they can only be the two neighbours of a half, of which one is odd
  rcases first with near | ⟨half, even⟩
  · rcases second with near' | ⟨half', -⟩ <;> linarith
  rcases second with near' | ⟨half', even'⟩
  · linarith
  have one : |n - m| = 1 := by
    have exact_one : |(n : ℚ) - m| = 1 := le_antisymm (by linarith) apart
    exact_mod_cast exact_one
  rcases (abs_eq (by decide)).mp one with up | down
  · have odd : Even (n - m) := even.sub even'
    rw [up] at odd
    exact absurd odd (by decide)
  · have odd : Even (n - m) := even.sub even'
    rw [down] at odd
    exact absurd odd (by decide)

private theorem nearestEven_near (v : ℚ) :
    |v - nearestEven v| < 1 / 2 ∨ (|v - nearestEven v| = 1 / 2 ∧ Even (nearestEven v)) := by
  have parts : v - ⌊v⌋ = Int.fract v := rfl
  have nonneg := Int.fract_nonneg v
  have below := Int.fract_lt_one v
  rw [nearestEven]
  split
  · next down =>
    rw [parts, abs_of_nonneg nonneg]
    exact down
  · next up =>
    have above : v - ((⌊v⌋ + 1 : ℤ) : ℚ) = -(1 - Int.fract v) := by
      push_cast
      linarith
    rw [above, abs_neg, abs_of_pos (by linarith)]
    rw [not_or, not_lt, not_and] at up
    rcases up.1.lt_or_eq with more | half
    · exact .inl (by linarith)
    · exact .inr ⟨by linarith, Int.not_even_iff_odd.mp (up.2 half.symm) |>.add_one⟩

/-- A whole number is the nearest one when it is less than a half away, or a half away and even. -/
theorem nearestEven_eq_iff :
    nearestEven v = n ↔ |v - n| < 1 / 2 ∨ (|v - n| = 1 / 2 ∧ Even n) := by
  constructor
  · rintro rfl
    exact nearestEven_near v
  · exact fun near => eq_of_near (nearestEven_near v) near

theorem abs_sub_nearestEven_le (v : ℚ) : |v - nearestEven v| ≤ 1 / 2 := by
  rcases nearestEven_near v with near | ⟨half, -⟩
  · exact near.le
  · exact half.le

@[simp]
theorem nearestEven_intCast (n : ℤ) : nearestEven n = n :=
  nearestEven_eq_iff.mpr (.inl (by norm_num))

theorem nearestEven_neg (v : ℚ) : nearestEven (-v) = -nearestEven v := by
  have mirrored : |-v - ((-nearestEven v : ℤ) : ℚ)| = |v - nearestEven v| := by
    rw [← abs_neg]
    congr 1
    push_cast
    ring
  rw [nearestEven_eq_iff, mirrored, even_neg]
  exact nearestEven_near v

/-- Below an even bound a number is rounded only if it lies more than a half below it: the last half
goes to the bound. -/
theorem nearestEven_lt_iff (even : Even n) : nearestEven v < n ↔ v < n - 1 / 2 := by
  have near := abs_le.mp (abs_sub_nearestEven_le v)
  constructor
  · intro less
    have cast : (nearestEven v : ℚ) ≤ n - 1 := by exact_mod_cast Int.le_sub_one_of_lt less
    by_contra beyond
    -- then it lies in the middle between the bound and the odd number before it
    have middle : v - nearestEven v = 1 / 2 := le_antisymm near.2 (by linarith)
    have before : nearestEven v = n - 1 := by
      have same : (nearestEven v : ℚ) = n - 1 := by linarith
      exact_mod_cast same
    rcases nearestEven_near v with less | ⟨-, evenBefore⟩
    · rw [middle] at less
      norm_num at less
    · rw [before] at evenBefore
      exact absurd (even.sub evenBefore) (by rw [sub_sub_cancel]; decide)
  · intro less
    have cast : (nearestEven v : ℚ) < n := by linarith
    exact_mod_cast cast

/-! ## Quotients and remainders -/

section Quotient

variable {q r d : ℕ}

/-- A quotient is its whole part and a proper fraction. -/
theorem natCast_div_eq (n : ℕ) (positive : 0 < d) :
    (n / d : ℚ) = (n / d : ℕ) + (n % d : ℕ) / d := by
  have divisor : (d : ℚ) ≠ 0 := by exact_mod_cast positive.ne'
  rw [eq_comm, add_div' _ _ _ divisor, div_left_inj' divisor]
  exact_mod_cast Nat.div_add_mod' n d

theorem div_lt_one_of_proper (proper : r < d) : (r : ℚ) / d < 1 := by
  rw [div_lt_one (by exact_mod_cast (Nat.zero_le r).trans_lt proper)]
  exact_mod_cast proper

theorem div_lt_half_iff (proper : r < d) : (r : ℚ) / d < 1 / 2 ↔ 2 * r < d := by
  have positive : (0 : ℚ) < d := by exact_mod_cast (Nat.zero_le r).trans_lt proper
  rw [div_lt_div_iff₀ positive (by norm_num), one_mul, mul_comm]
  exact_mod_cast Iff.rfl

theorem div_eq_half_iff (proper : r < d) : (r : ℚ) / d = 1 / 2 ↔ 2 * r = d := by
  have positive : (0 : ℚ) < d := by exact_mod_cast (Nat.zero_le r).trans_lt proper
  rw [div_eq_div_iff positive.ne' (by norm_num), one_mul, mul_comm]
  exact_mod_cast Iff.rfl

/-- A quotient that is rounded by its remainder is rounded to the nearest whole number. -/
theorem nearestEven_add_div (proper : r < d) :
    nearestEven (q + r / d) =
      (if d < 2 * r ∨ (2 * r = d ∧ q % 2 = 1) then q + 1 else q : ℕ) := by
  have nonneg : (0 : ℚ) ≤ r / d := by positivity
  have below := div_lt_one_of_proper proper
  have floor : ⌊(q + r / d : ℚ)⌋ = q := by
    rw [Int.floor_eq_iff]
    push_cast
    constructor <;> linarith
  have fract : Int.fract (q + r / d : ℚ) = r / d := by
    rw [← Int.self_sub_floor, floor]
    push_cast
    ring
  have even : Even (q : ℤ) ↔ q % 2 = 0 := by rw [Int.even_coe_nat, Nat.even_iff]
  rw [nearestEven, floor, fract]
  simp only [div_lt_half_iff proper, div_eq_half_iff proper, even]
  split
  · rw [if_neg (by omega)]
  · rw [if_pos (by omega)]
    push_cast
    rfl

theorem nearestEven_div (n : ℕ) (positive : 0 < d) :
    nearestEven (n / d) = Rounding.halfEven n d := by
  rw [natCast_div_eq n positive, nearestEven_add_div (Nat.mod_lt n positive), Rounding.halfEven]

end Quotient

/-! ## Halves away from zero -/

theorem nearestAway_neg (v : ℚ) : nearestAway (-v) = -nearestAway v := by
  rcases lt_trichotomy v 0 with below | rfl | above
  · rw [nearestAway, nearestAway, if_pos (by linarith), if_neg (by linarith), neg_neg]
  · norm_num [nearestAway]
  · rw [nearestAway, nearestAway, if_neg (by linarith), if_pos above.le, neg_neg]

@[simp]
theorem nearestAway_intCast (n : ℤ) : nearestAway n = n := by
  have half : ∀ m : ℤ, ⌊(m + 1 / 2 : ℚ)⌋ = m := by
    intro m
    rw [Int.floor_eq_iff]
    constructor <;> linarith
  rw [nearestAway]
  split
  · exact half n
  · have other := half (-n)
    push_cast at other
    rw [other, neg_neg]

@[simp]
theorem nearestAway_zero : nearestAway 0 = 0 := nearestAway_intCast 0

theorem nearestAway_div (n : ℕ) {d : ℕ} (positive : 0 < d) :
    nearestAway (n / d) = Rounding.halfUp n d := by
  have proper := Nat.mod_lt n positive
  have nonneg : (0 : ℚ) ≤ (n % d : ℕ) / d := by positivity
  have below := div_lt_one_of_proper proper
  have half := div_lt_half_iff proper
  rw [nearestAway, if_pos (by positivity), natCast_div_eq n positive, Rounding.halfUp,
    Int.floor_eq_iff]
  split
  · next up =>
    have more := not_lt.mp (mt half.mp (by omega))
    rw [Int.cast_natCast, Nat.cast_add, Nat.cast_one]
    constructor <;> linarith
  · next down =>
    have less := half.mpr (by omega)
    rw [Int.cast_natCast]
    constructor <;> linarith

end Payslip
