/-
# A percentage of the cost to company, to the cent

A percentage of the yearly cost to company is computed in three steps: the monthly share, its
product with the percentage, and a hundredth of that. Each of them rounds. For costs and
percentages with two decimals and of any ordinary size this is far too little to show in cents,
unless the exact result is half a cent: then anything that is missing shows.

`MissesHalfCent` says exactly when. A twelfth of a number of cents has no finite expansion unless
that number is a multiple of three; it is rounded down when one is left over and up when two are.
What was lost is a third of a unit in the last digit, times the percentage, and either the product
and the quotient round it away again or the half cent is missed.
-/

import Payslip.Proofs.Decimal.Precision

namespace Payslip

open Decimal

/-- So many percent of the monthly share of a yearly amount, every step rounded. -/
def percentOfMonthly (yearly percent : ℚ) : ℚ :=
  nearestTo (nearestTo (nearestTo (yearly / 12) * percent) / 100)

/-- What a third of a unit in the last digit of the monthly share comes to, times the percentage. -/
def lostShare (yearly percent : ℚ) : ℚ := percent / (3 * tenPow (lastScale (yearly / 12)))

/-- That, as far as the rounded product lacks it. -/
def lostProduct (yearly percent : ℚ) : ℚ :=
  roundAt (lostShare yearly percent) (lastScale (yearly * percent / 12))

/-- What the hundredth of the product then lacks, and with it the result. -/
def lostPart (yearly percent : ℚ) : ℚ :=
  roundAt (lostProduct yearly percent / 100) (lastScale (yearly * percent / 12 / 100))

/-- The exact result is half a cent, one is left over when the cents of the yearly amount are
divided by three, and what the monthly share then lacks is not rounded away again. -/
structure MissesHalfCent (yearly percent : ℚ) : Prop where
  leavesOne : ∃ n : ℕ, yearly * 100 = 3 * n + 1
  halfCent : ∃ k : ℤ, yearly * percent / 12 = k + 1 / 2
  lost : lostPart yearly percent ≠ 0

/-- Amounts of the size in question, in cents and hundredths of a percent. -/
structure Ordinary (yearly percent : ℚ) (cents hundredths : ℕ) : Prop where
  yearly_eq : yearly = cents / 100
  percent_eq : percent = hundredths / 100
  cents_le : cents ≤ 100000000000000
  hundredths_le : hundredths ≤ 100000

namespace Ordinary

variable {yearly percent : ℚ} {cents hundredths : ℕ}

/-! ## The monthly share -/

theorem yearly_nonneg (ordinary : Ordinary yearly percent cents hundredths) : 0 ≤ yearly := by
  rw [ordinary.yearly_eq]
  positivity

theorem percent_nonneg (ordinary : Ordinary yearly percent cents hundredths) : 0 ≤ percent := by
  rw [ordinary.percent_eq]
  positivity

theorem yearly_le (ordinary : Ordinary yearly percent cents hundredths) :
    yearly ≤ 1000000000000 := by
  have cast : (cents : ℚ) ≤ 100000000000000 := by exact_mod_cast ordinary.cents_le
  rw [ordinary.yearly_eq]
  linarith

theorem percent_le (ordinary : Ordinary yearly percent cents hundredths) : percent ≤ 1000 := by
  have cast : (hundredths : ℚ) ≤ 100000 := by exact_mod_cast ordinary.hundredths_le
  rw [ordinary.percent_eq]
  linarith

theorem fits_monthly (ordinary : Ordinary yearly percent cents hundredths) :
    Fits (yearly / 12) 17 := by
  apply fits_of_nonneg (by linarith [ordinary.yearly_nonneg])
  norm_num [tenPow_eq_pow, bound]
  linarith [ordinary.yearly_le]

/-- The monthly share is the exact twelfth, or a third of a unit in its last digit below or above
it. -/
theorem nearestTo_monthly (ordinary : Ordinary yearly percent cents hundredths) :
    nearestTo (yearly / 12) = yearly / 12 +
      (if cents % 3 = 0 then 0 else if cents % 3 = 1 then -1 else 1) /
        (3 * tenPow (lastScale (yearly / 12))) := by
  have fine : 17 ≤ lastScale (yearly / 12) := le_lastScale (by decide) ordinary.fits_monthly
  rw [nearestTo, roundAt]
  generalize lastScale (yearly / 12) = scale at fine
  obtain ⟨more, rfl⟩ := Nat.exists_eq_add_of_le fine
  have power := tenPow_cast_pos (17 + more)
  have scaled : yearly / 12 * tenPow (17 + more) =
      ((cents * (250000000000000 * tenPow more) : ℕ) : ℚ) / (3 : ℕ) := by
    rw [ordinary.yearly_eq, tenPow_add]
    norm_num [tenPow_eq_pow]
    ring
  have residue : tenPow more % 3 = 1 := by simp [tenPow_eq_pow, Nat.pow_mod]
  have left : cents * (250000000000000 * tenPow more) % 3 = cents % 3 := by
    simp [Nat.mul_mod, residue]
  rw [scaled, nearestEven_div _ (by decide), Rounding.halfEven, div_eq_iff power.ne', add_mul,
    scaled]
  generalize cents * (250000000000000 * tenPow more) = total at left
  have parts := natCast_div_eq total (d := 3) (by decide)
  rw [left] at parts ⊢
  rw [parts]
  generalize total / 3 = whole
  have residues : cents % 3 = 0 ∨ cents % 3 = 1 ∨ cents % 3 = 2 := by omega
  rcases residues with none | one | two
  · simp [none]
  · simp [one]
    field_simp
    ring
  · simp [two]
    field_simp
    ring

theorem le_nearestTo_monthly (ordinary : Ordinary yearly percent cents hundredths)
    (leaves : cents % 3 ≠ 1) : yearly / 12 ≤ nearestTo (yearly / 12) := by
  have power := tenPow_cast_pos (lastScale (yearly / 12))
  rw [ordinary.nearestTo_monthly, if_neg leaves]
  split <;> simp [power.le]

theorem nearestTo_monthly_of_leavesOne (ordinary : Ordinary yearly percent cents hundredths)
    (leaves : cents % 3 = 1) :
    nearestTo (yearly / 12) = yearly / 12 - 1 / (3 * tenPow (lastScale (yearly / 12))) := by
  rw [ordinary.nearestTo_monthly, if_neg (by omega), if_pos leaves]
  ring

/-! ## How far the result is off -/

theorem product_nonneg (ordinary : Ordinary yearly percent cents hundredths) :
    0 ≤ yearly * percent / 12 :=
  div_nonneg (mul_nonneg ordinary.yearly_nonneg ordinary.percent_nonneg) (by norm_num)

theorem product_le (ordinary : Ordinary yearly percent cents hundredths) :
    yearly * percent / 12 ≤ 84000000000000 := by
  have factors := mul_le_mul ordinary.yearly_le ordinary.percent_le ordinary.percent_nonneg
    (by norm_num)
  linarith

/-- Amounts of this size fit with fourteen decimals, and their hundredths with sixteen. -/
theorem fits_cents {v : ℚ} (nonneg : 0 ≤ v) (le : v ≤ 84000000000001) :
    Fits v 14 ∧ Fits (v / 100) 16 := by
  constructor
  · apply fits_of_nonneg nonneg
    norm_num [tenPow_eq_pow, bound]
    linarith
  · apply fits_of_nonneg (by linarith)
    norm_num [tenPow_eq_pow, bound]
    linarith

theorem abs_sub_monthly_le (ordinary : Ordinary yearly percent cents hundredths) :
    |yearly * percent / 12 - nearestTo (yearly / 12) * percent| ≤ 1 / 200000000000000 := by
  have share := abs_sub_nearestTo_le (by decide) ordinary.fits_monthly
  have factored : yearly * percent / 12 - nearestTo (yearly / 12) * percent =
      (yearly / 12 - nearestTo (yearly / 12)) * percent := by ring
  rw [factored, abs_mul, abs_of_nonneg ordinary.percent_nonneg]
  calc |yearly / 12 - nearestTo (yearly / 12)| * percent
      ≤ 1 / (2 * tenPow 17) * 1000 :=
        mul_le_mul share ordinary.percent_le ordinary.percent_nonneg (by positivity)
    _ = 1 / 200000000000000 := by norm_num [tenPow_eq_pow]

theorem nearestTo_monthly_nonneg (ordinary : Ordinary yearly percent cents hundredths) :
    0 ≤ nearestTo (yearly / 12) :=
  nearestTo_nonneg (div_nonneg ordinary.yearly_nonneg (by norm_num))

/-- The product of the rounded share and the percentage has room for fourteen decimals, and its
rounded value is a hundredfold with room for sixteen. -/
theorem fits_product (ordinary : Ordinary yearly percent cents hundredths) :
    Fits (nearestTo (yearly / 12) * percent) 14 ∧
      Fits (nearestTo (nearestTo (yearly / 12) * percent) / 100) 16 := by
  have share := abs_le.mp ordinary.abs_sub_monthly_le
  have le := ordinary.product_le
  have nonneg := mul_nonneg ordinary.nearestTo_monthly_nonneg ordinary.percent_nonneg
  have fits := (fits_cents nonneg (by linarith)).1
  have rounded := abs_le.mp (abs_sub_nearestTo_le (by decide) fits)
  norm_num [tenPow_eq_pow] at rounded
  exact ⟨fits, (fits_cents (nearestTo_nonneg nonneg) (by linarith)).2⟩

/-- All three steps together are off by far less than two different results can be apart. -/
theorem abs_percentOfMonthly_sub_lt (ordinary : Ordinary yearly percent cents hundredths) :
    |percentOfMonthly yearly percent * 100 - yearly * percent / 12| < 1 / 120000 := by
  have share := abs_le.mp ordinary.abs_sub_monthly_le
  have product := abs_le.mp (abs_sub_nearestTo_le (by decide) ordinary.fits_product.1)
  have hundredth := abs_le.mp (abs_sub_nearestTo_le (by decide) ordinary.fits_product.2)
  norm_num [tenPow_eq_pow] at product hundredth
  rw [abs_lt, percentOfMonthly]
  constructor <;> linarith

theorem percentOfMonthly_nonneg (ordinary : Ordinary yearly percent cents hundredths) :
    0 ≤ percentOfMonthly yearly percent :=
  nearestTo_nonneg (div_nonneg (nearestTo_nonneg
    (mul_nonneg ordinary.nearestTo_monthly_nonneg ordinary.percent_nonneg)) (by norm_num))

/-- Off by so little, the result is rounded to the right cent unless it falls below half a cent. -/
theorem nearestAway_eq (ordinary : Ordinary yearly percent cents hundredths)
    (atHalf : ∀ k : ℤ, yearly * percent / 12 = k + 1 / 2 →
      yearly * percent / 12 ≤ percentOfMonthly yearly percent * 100) :
    nearestAway (percentOfMonthly yearly percent * 100) = nearestAway (yearly * percent / 12) := by
  have units : yearly * percent / 12 = (cents * hundredths : ℕ) / (2 * 60000 : ℕ) := by
    rw [ordinary.yearly_eq, ordinary.percent_eq]
    push_cast
    ring
  refine nearestAway_eq_of_near (by decide) units ?_ ?_ atHalf
  · exact mul_nonneg ordinary.percentOfMonthly_nonneg (by norm_num)
  · exact_mod_cast ordinary.abs_percentOfMonthly_sub_lt

/-! ## Half a cent -/

variable {k : ℤ}

/-- Half a cent is whole with fourteen decimals, and its hundredth with sixteen. -/
theorem half_mul_tenPow {v : ℚ} (half : v = k + 1 / 2) :
    v * tenPow 14 = ((2 * k + 1) * 50000000000000 : ℤ) ∧
      v / 100 * tenPow 16 = ((2 * k + 1) * 50000000000000 : ℤ) := by
  rw [half]
  norm_num [tenPow_eq_pow]
  constructor <;> ring

/-- If the monthly share was not rounded down, half a cent is reached. -/
theorem le_percentOfMonthly (ordinary : Ordinary yearly percent cents hundredths)
    (leaves : cents % 3 ≠ 1) (half : yearly * percent / 12 = k + 1 / 2) :
    yearly * percent / 12 ≤ percentOfMonthly yearly percent * 100 := by
  have share : yearly * percent / 12 ≤ nearestTo (yearly / 12) * percent := by
    have factor := mul_le_mul_of_nonneg_right (ordinary.le_nearestTo_monthly leaves)
      ordinary.percent_nonneg
    linarith
  obtain ⟨whole, wholeHundredth⟩ := half_mul_tenPow half
  have product := le_nearestTo (by decide) ordinary.fits_product.1 whole share
  have result := le_nearestTo (by decide) ordinary.fits_product.2 wholeHundredth
    (div_le_div_of_nonneg_right product (by norm_num))
  rw [percentOfMonthly]
  linarith

theorem lostShare_nonneg (ordinary : Ordinary yearly percent cents hundredths) :
    0 ≤ lostShare yearly percent :=
  div_nonneg ordinary.percent_nonneg (by positivity)

theorem lostShare_le (ordinary : Ordinary yearly percent cents hundredths) :
    lostShare yearly percent ≤ 1 / 300000000000000 := by
  have power := tenPow_cast_pos (lastScale (yearly / 12))
  have fine : (100000000000000000 : ℚ) ≤ tenPow (lastScale (yearly / 12)) := by
    simpa [tenPow_eq_pow 17] using tenPow_le_lastScale (by decide) ordinary.fits_monthly
  rw [lostShare, div_le_div_iff₀ (by positivity) (by norm_num)]
  linarith [ordinary.percent_le]

theorem lostProduct_nonneg (ordinary : Ordinary yearly percent cents hundredths) :
    0 ≤ lostProduct yearly percent :=
  roundAt_nonneg ordinary.lostShare_nonneg _

theorem lostProduct_le (ordinary : Ordinary yearly percent cents hundredths) :
    lostProduct yearly percent ≤ 1 / 100000000000000 := by
  have fits := (fits_cents ordinary.product_nonneg (by linarith [ordinary.product_le])).1
  have fine : (100000000000000 : ℚ) ≤ tenPow (lastScale (yearly * percent / 12)) := by
    simpa [tenPow_eq_pow 14] using tenPow_le_lastScale (by decide) fits
  have rounded := abs_le.mp
    (abs_sub_roundAt_le (lostShare yearly percent) (lastScale (yearly * percent / 12)))
  have unit : 1 / (2 * (tenPow (lastScale (yearly * percent / 12)) : ℚ)) ≤ 1 / 200000000000000 := by
    exact one_div_le_one_div_of_le (by norm_num) (by linarith)
  rw [lostProduct]
  linarith [ordinary.lostShare_le]

theorem lostPart_nonneg (ordinary : Ordinary yearly percent cents hundredths) :
    0 ≤ lostPart yearly percent :=
  roundAt_nonneg (div_nonneg ordinary.lostProduct_nonneg (by norm_num)) _

theorem half_le_product (ordinary : Ordinary yearly percent cents hundredths)
    (half : yearly * percent / 12 = k + 1 / 2) : 1 / 2 ≤ yearly * percent / 12 := by
  have positive : (0 : ℤ) < k + 1 := by
    exact_mod_cast (by linarith [ordinary.product_nonneg] : (0 : ℚ) < (k : ℚ) + 1)
  have cast : (0 : ℚ) ≤ k := by exact_mod_cast Int.lt_add_one_iff.mp positive
  linarith

/-- Half a cent lies on the grid, in cents with fourteen decimals and as a hundredth with
sixteen. -/
theorem onGrid_half (ordinary : Ordinary yearly percent cents hundredths)
    (half : yearly * percent / 12 = k + 1 / 2) :
    OnGrid (yearly * percent / 12) 14 (2 * k + 1) ∧
      OnGrid (yearly * percent / 12 / 100) 16 (2 * k + 1) := by
  have fits := fits_cents ordinary.product_nonneg (by linarith [ordinary.product_le])
  constructor
  · exact ⟨by decide, fits.1, by rw [half]; norm_num [tenPow_eq_pow]; ring⟩
  · exact ⟨by decide, fits.2, by rw [half]; norm_num [tenPow_eq_pow]; ring⟩

/-- If it was, what it lacks is rounded in place of the result. -/
theorem percentOfMonthly_of_leavesOne (ordinary : Ordinary yearly percent cents hundredths)
    (leaves : cents % 3 = 1) (half : yearly * percent / 12 = k + 1 / 2) :
    percentOfMonthly yearly percent * 100 =
      yearly * percent / 12 - lostPart yearly percent * 100 := by
  have atLeastHalf := ordinary.half_le_product half
  obtain ⟨centsGrid, hundredthsGrid⟩ := ordinary.onGrid_half half
  obtain ⟨whole, wholeHundredth⟩ := half_mul_tenPow half
  have even : Even ((2 * k + 1) * 50000000000000) := ⟨(2 * k + 1) * 25000000000000, by ring⟩
  have share : nearestTo (yearly / 12) * percent =
      yearly * percent / 12 - lostShare yearly percent := by
    rw [ordinary.nearestTo_monthly_of_leavesOne leaves, lostShare]
    ring
  have product : nearestTo (nearestTo (yearly / 12) * percent) =
      yearly * percent / 12 - lostProduct yearly percent := by
    have small := ordinary.lostShare_le
    rw [share]
    refine centsGrid.nearestTo_sub ordinary.lostShare_nonneg (by linarith) ?_ whole even
    norm_num [tenPow_eq_pow, maxScale]
    linarith
  have hundredth : nearestTo (nearestTo (nearestTo (yearly / 12) * percent) / 100) =
      yearly * percent / 12 / 100 - lostPart yearly percent := by
    have small := ordinary.lostProduct_le
    rw [product, sub_div]
    refine hundredthsGrid.nearestTo_sub (div_nonneg ordinary.lostProduct_nonneg (by norm_num))
      (by linarith) ?_ wholeHundredth even
    norm_num [tenPow_eq_pow, maxScale]
    linarith
  rw [percentOfMonthly, hundredth]
  ring

/-! ## The rule -/

theorem leavesOne_iff (ordinary : Ordinary yearly percent cents hundredths) :
    (∃ n : ℕ, yearly * 100 = 3 * n + 1) ↔ cents % 3 = 1 := by
  have scaled : yearly * 100 = cents := by
    rw [ordinary.yearly_eq]
    ring
  rw [scaled]
  constructor
  · rintro ⟨n, leaves⟩
    have whole : cents = 3 * n + 1 := by exact_mod_cast leaves
    omega
  · intro leaves
    refine ⟨cents / 3, ?_⟩
    exact_mod_cast (by omega : cents = 3 * (cents / 3) + 1)

/-- The cent of the exact result, halves away from zero, unless half a cent is missed. -/
theorem nearestAway_of_not_misses (ordinary : Ordinary yearly percent cents hundredths)
    (reached : ¬ MissesHalfCent yearly percent) :
    nearestAway (percentOfMonthly yearly percent * 100) = nearestAway (yearly * percent / 12) := by
  refine ordinary.nearestAway_eq fun k half => ?_
  by_cases leaves : cents % 3 = 1
  · have nothing : lostPart yearly percent = 0 := by
      by_contra lost
      exact reached ⟨ordinary.leavesOne_iff.mpr leaves, ⟨k, half⟩, lost⟩
    rw [ordinary.percentOfMonthly_of_leavesOne leaves half, nothing]
    linarith
  · exact ordinary.le_percentOfMonthly leaves half

/-- And if it is missed, the cent below. -/
theorem nearestAway_of_misses (ordinary : Ordinary yearly percent cents hundredths)
    (misses : MissesHalfCent yearly percent) :
    nearestAway (percentOfMonthly yearly percent * 100) =
      nearestAway (yearly * percent / 12) - 1 := by
  obtain ⟨k, half⟩ := misses.halfCent
  have leaves := ordinary.leavesOne_iff.mp misses.leavesOne
  have result := ordinary.percentOfMonthly_of_leavesOne leaves half
  have lost := lt_of_le_of_ne ordinary.lostPart_nonneg misses.lost.symm
  have close := abs_lt.mp ordinary.abs_percentOfMonthly_sub_lt
  have nonneg : 0 ≤ percentOfMonthly yearly percent * 100 :=
    mul_nonneg ordinary.percentOfMonthly_nonneg (by norm_num)
  have exactCent : ⌊yearly * percent / 12 + 1 / 2⌋ = k + 1 := by
    rw [half, Int.floor_eq_iff]
    push_cast
    constructor <;> linarith
  have cent : ⌊percentOfMonthly yearly percent * 100 + 1 / 2⌋ = k := by
    rw [Int.floor_eq_iff]
    constructor <;> linarith
  rw [nearestAway_of_nonneg nonneg, nearestAway_of_nonneg ordinary.product_nonneg, exactCent, cent,
    add_sub_cancel_right]

end Ordinary

end Payslip
