/-
# Earnings that make up the monthly cost to company

An earning may be whatever the others leave of the monthly cost to company. As numbers the earnings
of a structure with such a component add up to the monthly cost. What is paid adds up to it only
nearly: every line is rounded to cents on its own, and so are the differences behind the balancing
component, far finer. `totalEarnings_near_monthlyCtc` says by how many cents the total may be off.

The bound is sharp already for one other earning: two halves of a cent are both rounded up.
-/

import Payslip.Proofs.Breakdown.Numbers
import Payslip.Proofs.Breakdown.Order
import Payslip.Proofs.Formula.Remainder

namespace Payslip

open Decimal

/-! ## Whole cents -/

theorem abs_sub_nearestAway_le (v : ℚ) : |v - nearestAway v| ≤ 1 / 2 := by
  rw [nearestAway]
  split
  · have below := Int.floor_le (v + 1 / 2)
    have above := Int.lt_floor_add_one (v + 1 / 2)
    rw [abs_le]
    constructor <;> linarith
  · have below := Int.floor_le (-v + 1 / 2)
    have above := Int.lt_floor_add_one (-v + 1 / 2)
    rw [abs_le, Int.cast_neg]
    constructor <;> linarith

/-- Rounding to cents moves an amount by half a cent at most. -/
theorem abs_roundToCents_sub_le (amount : Decimal) :
    |(roundToCents amount).toRat - amount.toRat| ≤ 1 / 200 := by
  have near := abs_le.mp (abs_sub_nearestAway_le (amount.toRat * 100))
  rw [toRat_roundToCents, wholeCents, abs_le]
  constructor <;> linarith

theorem abs_exactSum_roundToCents_sub_le (amounts : List Decimal) :
    |exactSum (amounts.map roundToCents) - exactSum amounts| ≤ amounts.length / 200 := by
  induction amounts with
  | nil => simp [exactSum]
  | cons amount rest ih =>
      have here := abs_roundToCents_sub_le amount
      have both := abs_add_le ((roundToCents amount).toRat - amount.toRat)
        (exactSum (rest.map roundToCents) - exactSum rest)
      rw [← add_sub_add_comm] at both
      simp only [List.map_cons, exactSum_cons, List.length_cons, Nat.cast_add, Nat.cast_one,
        add_div]
      linarith

theorem absoluteSum_roundToCents_le (amounts : List Decimal) :
    absoluteSum (amounts.map roundToCents) ≤ absoluteSum amounts + amounts.length / 200 := by
  induction amounts with
  | nil => simp [absoluteSum]
  | cons amount rest ih =>
      have here := abs_roundToCents_sub_le amount
      have size := abs_sub_abs_le_abs_sub (roundToCents amount).toRat amount.toRat
      simp only [List.map_cons, absoluteSum_cons, List.length_cons, Nat.cast_add, Nat.cast_one,
        add_div]
      linarith

/-- Small amounts add exactly when each of them has been rounded to cents. -/
theorem AddExactly.of_roundToCents {amounts : List Decimal}
    (small : absoluteSum amounts + amounts.length / 200 < 2 ^ 96 / 100) :
    AddExactly (amounts.map roundToCents) where
  inCents := List.forall_mem_map.mpr fun amount _ => scale_roundToCents_le amount
  small := (absoluteSum_roundToCents_le amounts).trans_lt small

/-- Amounts in cents differ by whole cents, so by no more halves of a cent than make up whole
ones. -/
theorem abs_sub_le_of_inCents {x y : Decimal} (left : x.scale ≤ 2) (right : y.scale ≤ 2) {n : ℕ}
    (near : |x.toRat - y.toRat| < (n + 1) / 200) : |x.toRat - y.toRat| ≤ (n / 2 : ℕ) / 100 := by
  obtain ⟨cents, cents_eq⟩ : ∃ cents : ℤ, x.toRat - y.toRat = cents / 100 := by
    refine ⟨x.units * tenPow (2 - x.scale) - y.units * tenPow (2 - y.scale), ?_⟩
    have power : (tenPow 2 : ℚ) = 100 := by norm_num [tenPow_eq_pow]
    rw [Int.cast_sub, units_mul_tenPow left, units_mul_tenPow right, power]
    ring
  have magnitude : |(cents : ℚ) / 100| = (|cents| : ℤ) / 100 := by
    rw [abs_div, Int.cast_abs, abs_of_pos (by norm_num : (0 : ℚ) < 100)]
  rw [cents_eq, magnitude] at near ⊢
  have halves : 2 * |cents| < n + 1 := by
    have scaled : (2 * (|cents| : ℤ) : ℚ) < n + 1 := by linarith
    exact_mod_cast scaled
  have whole : |cents| ≤ ((n / 2 : ℕ) : ℤ) := by omega
  rw [div_le_div_iff_of_pos_right (by norm_num), ← Int.cast_natCast]
  exact Int.cast_le.mpr whole

/-! ## The balancing component -/

/-- What evaluating one component of the catalog makes of another one that it refers to is the value
of that one. -/
theorem Plain.amount?_of_dependency {catalog : Catalog} {monthly amount : Decimal}
    {entry other : Component} (found : catalog.component? entry.id = some entry)
    (found' : catalog.component? other.id = some other)
    (listed : other.id ∈ entry.dependencies)
    (worth : component catalog monthly ∅ other = .ok amount) :
    amount? catalog monthly ∅ [entry.id] other.id = .ok (some amount) := by
  have outset : amount? catalog monthly ∅ [] other.id = .ok (some amount) := by
    rw [amount?_nil_of_component? rfl found', worth]
    rfl
  rw [amount?_eq_of_settles (settles_of_amount?_eq_ok outset) (.of_component? found listed) .nil,
    outset]

/-- The earnings of a structure are some components and one that is what these leave of the monthly
cost to company. -/
structure SalaryStructure.Balances (salaryStructure : SalaryStructure) (catalog : Catalog)
    (balance : Component) (others : List Component) : Prop where
  category_eq : balance.category = .formula
  terms_eq : balance.terms = Formula.remainder others
  earnings : ((salaryStructure.components catalog).filter (·.kind == .earning)).Perm
    (balance :: others)

namespace SalaryStructure.Balances

variable {salaryStructure : SalaryStructure} {catalog : Catalog} {balance : Component}
  {others : List Component} {monthly left : Decimal} {full : Component → Decimal}

theorem component?_eq (balances : salaryStructure.Balances catalog balance others)
    (distinct : catalog.ids.Nodup) {component : Component}
    (listed : component ∈ balance :: others) :
    component ∈ salaryStructure.components catalog ∧
      catalog.component? component.id = some component := by
  have member := (List.mem_filter.mp (balances.earnings.mem_iff.mpr listed)).1
  exact ⟨member, Catalog.component?_of_mem distinct (List.mem_filter.mp member).1⟩

section Worth

variable (balances : salaryStructure.Balances catalog balance others) (distinct : catalog.ids.Nodup)
  (worth : ∀ other ∈ others, Plain.component catalog monthly ∅ other = .ok (full other))
  (worth' : Plain.component catalog monthly ∅ balance = .ok left)
  (few : others.length < 10 ^ 6)
  (small : |monthly.toRat| + absoluteSum (others.map full) < 2 * 10 ^ 20)

include balances distinct worth worth' few small

/-- The balancing component is worth what the values of the others leave, up to half a unit of the
eighth digit after the point for each of them. -/
theorem abs_worth_sub_le :
    |left.toRat - (monthly.toRat - exactSum (others.map full))| ≤ others.length * halfUnit 8 := by
  have found := (balances.component?_eq distinct List.mem_cons_self).2
  have answered : ∀ other ∈ others,
      Plain.amount? catalog monthly ∅ [balance.id] other.id = .ok (some (full other)) := by
    intro other listed
    have found' := (balances.component?_eq distinct (List.mem_cons_of_mem balance listed)).2
    have referred : other.id ∈ balance.dependencies := by
      simp only [Component.dependencies, balances.category_eq, balances.terms_eq,
        Formula.componentIds_remainder]
      exact List.mem_map_of_mem listed
    exact Plain.amount?_of_dependency found found' referred (worth other listed)
  simp only [Plain.component, Component.value, balances.category_eq, balances.terms_eq,
    Formula.value_remainder answered] at worth'
  have room : Fits (|monthly.toRat| + absoluteSum (others.map full) +
      (others.map full).length * halfUnit 8) 8 := by
    have count : (others.length : ℚ) ≤ 10 ^ 6 := by exact_mod_cast few.le
    have total := absoluteSum_nonneg (others.map full)
    have half := halfUnit_nonneg 8
    apply fits_of_nonneg (by positivity)
    rw [List.length_map]
    norm_num [halfUnit, tenPow_eq_pow, bound] at small ⊢
    linarith
  have off := Formula.abs_foldSums_sub_le (by decide) room worth'
  rwa [List.length_map] at off

/-- So the values of all earnings add up to the monthly cost to company, up to less than half a
cent. -/
theorem abs_exactSum_worth_sub_lt :
    |exactSum (left :: others.map full) - monthly.toRat| < 1 / 200 := by
  have off := balances.abs_worth_sub_le distinct worth worth' few small
  have count : (others.length : ℚ) < 10 ^ 6 := by exact_mod_cast few
  have sum : exactSum (left :: others.map full) - monthly.toRat =
      left.toRat - (monthly.toRat - exactSum (others.map full)) := by
    rw [exactSum_cons]
    ring
  rw [sum]
  norm_num [halfUnit, tenPow_eq_pow] at off
  linarith

/-- None of these values is large. -/
theorem absoluteSum_worth_lt :
    absoluteSum (left :: others.map full) < 5 * 10 ^ 20 := by
  have off := balances.abs_exactSum_worth_sub_lt distinct worth worth' few small
  have whole := abs_sub_abs_le_abs_sub (exactSum (left :: others.map full)) monthly.toRat
  have first := abs_sub (exactSum (left :: others.map full)) (exactSum (others.map full))
  rw [exactSum_cons, add_sub_cancel_right, ← exactSum_cons] at first
  have rest := abs_exactSum_le (others.map full)
  have month := abs_nonneg monthly.toRat
  rw [absoluteSum_cons]
  linarith

/-- So the lines that show them add exactly. -/
theorem lines_addExactly : AddExactly ((left :: others.map full).map roundToCents) := by
  have inRange := balances.absoluteSum_worth_lt distinct worth worth' few small
  have count : (others.length : ℚ) < 10 ^ 6 := by exact_mod_cast few
  apply AddExactly.of_roundToCents
  rw [List.length_cons, List.length_map]
  push_cast
  norm_num at inRange ⊢
  linarith

/-- The lines are off by half a cent each, the monthly cost in cents by another half, and what is
between them by less than one. -/
theorem abs_exactSum_lines_sub_lt :
    |exactSum ((left :: others.map full).map roundToCents) - (roundToCents monthly).toRat| <
      ((others.length + 2 : ℕ) + 1) / 200 := by
  have off := balances.abs_exactSum_worth_sub_lt distinct worth worth' few small
  have rounded := abs_exactSum_roundToCents_sub_le (left :: others.map full)
  have month := abs_roundToCents_sub_le monthly
  rw [List.length_cons, List.length_map] at rounded
  push_cast at rounded ⊢
  rw [abs_lt] at off ⊢
  rw [abs_le] at rounded month
  constructor <;> linarith

end Worth

end SalaryStructure.Balances

/-- The monthly cost to company is hardly larger than a twelfth of the yearly one. -/
theorem abs_monthlyShare_le (yearly : Decimal) :
    |(monthlyShare yearly).toRat| ≤ |yearly.toRat / 12| + 1 / 2 := by
  have off := abs_sub_nearestTo_le (by decide) (yearly.fits_toRat_div (v := 12) (by norm_num))
  rw [← toRat_monthlyShare, abs_sub_comm, tenPow_zero] at off
  have parts := abs_sub_abs_le_abs_sub (monthlyShare yearly).toRat (yearly.toRat / 12)
  norm_num at off
  exact sub_le_iff_le_add'.mp (parts.trans off)

namespace Breakdown

variable {employee : Employee} {salaryStructure : SalaryStructure} {catalog : Catalog}
  {balance : Component} {others : List Component} {workingDays : Option UInt32}
  {breakdown : Breakdown} {full due : Component → Decimal}

/-- Without unpaid days the lines of the earnings show their full values in cents. -/
theorem Itemizes.earnings_perm
    (itemizes : Itemizes employee salaryStructure catalog workingDays due breakdown)
    (assessed : Assessed employee salaryStructure catalog full due)
    (balances : salaryStructure.Balances catalog balance others)
    (present : employee.unpaidDays = 0) :
    (breakdown.earnings.map (·.amount)).Perm
      ((full balance :: others.map full).map roundToCents) := by
  have paid_in_full : ∀ component ∈ salaryStructure.components catalog,
      due component = full component := by
    intro component listed
    have owed := assessed.due_eq component listed
    rw [dueAmount, present, if_neg (fun marked => absurd marked.2.2 (by decide))] at owed
    exact (Except.ok.inj owed).symm
  have lines : breakdown.earnings.map (·.amount) =
      ((salaryStructure.components catalog).filter (·.kind == .earning)).map
        (roundToCents ∘ full) := by
    rw [itemizes.earnings_eq, dueLines, List.map_map]
    apply List.map_congr_left
    intro component listed
    show roundToCents (due component) = roundToCents (full component)
    rw [paid_in_full component (List.mem_filter.mp listed).1]
  have reordered := balances.earnings.map (roundToCents ∘ full)
  rw [lines, ← List.map_cons, List.map_map]
  exact reordered

/-- With a balancing component among the earnings of a structure, and no unpaid days, the total of
the earnings differs from the monthly cost to company in cents by at most half as many cents as
there are earnings and one more. -/
theorem totalEarnings_near_monthlyCtc (distinct : catalog.ids.Nodup)
    (balances : salaryStructure.Balances catalog balance others)
    (few : others.length < 10 ^ 6)
    (worth : ∀ other ∈ others,
      Plain.component catalog employee.monthlyCtc ∅ other = .ok (full other))
    (small : |employee.ctc.toRat / 12| + absoluteSum (others.map full) < 10 ^ 20)
    (present : employee.unpaidDays = 0)
    (made : calculate employee salaryStructure catalog workingDays = .ok breakdown) :
    |breakdown.totalEarnings.toRat - (roundToCents employee.monthlyCtc).toRat| ≤
      ((others.length + 2) / 2 : ℕ) / 100 := by
  obtain ⟨full', due, assessed, itemizes⟩ := (calculate_eq_ok_iff distinct).mp made
  have same : others.map full' = others.map full := by
    apply List.map_congr_left
    intro other listed
    have member := (balances.component?_eq distinct (List.mem_cons_of_mem balance listed)).1
    have evaluated := assessed.full_eq other member
    rw [worth other listed] at evaluated
    exact (Except.ok.inj evaluated).symm
  have worth' := assessed.full_eq balance (balances.component?_eq distinct List.mem_cons_self).1
  have lines := itemizes.earnings_perm assessed balances present
  rw [same] at lines
  generalize full' balance = left at worth' lines
  have monthly : |employee.monthlyCtc.toRat| ≤ |employee.ctc.toRat / 12| + 1 / 2 :=
    abs_monthlyShare_le employee.ctc
  have small' : |employee.monthlyCtc.toRat| + absoluteSum (others.map full) < 2 * 10 ^ 20 := by
    linarith
  have exactly := balances.lines_addExactly distinct worth worth' few small'
  obtain ⟨total, summed, total_eq⟩ := (exactly.perm lines.symm).exists_sumToCents
  cases summed.symm.trans (sumToCents_eq_ok_iff.mpr itemizes.totalEarnings_eq)
  refine abs_sub_le_of_inCents itemizes.inCents.totalEarnings (scale_roundToCents_le _) ?_
  rw [total_eq, ← exactSum_perm lines]
  exact balances.abs_exactSum_lines_sub_lt distinct worth worth' few small'

/-- Half of the monthly cost to company. -/
def halfOfCtc : Component := .percentage "basic" "Basic" .earning (.ofWord 50) .ctc

/-- The other half, as what is left of it. -/
def restOfCtc : Component :=
  .formula "rest" "Special Allowance" .earning (Formula.remainder [halfOfCtc])

/-- The balancing earning in front of the one that it refers to, and a deduction between them. -/
def halvedCatalog : Catalog :=
  [restOfCtc, .percentage "fund" "Fund" .deduction (.ofWord 12) (.component "rest"), halfOfCtc]

theorem totalEarnings_near_monthlyCtc_halvedCatalog :
    halvedCatalog.ids.Nodup ∧
    SalaryStructure.Balances ⟨"std", "Standard", ["basic", "gone", "fund", "rest"]⟩ halvedCatalog
      restOfCtc [halfOfCtc] ∧
    [halfOfCtc].length < 10 ^ 6 ∧
    (∀ other ∈ [halfOfCtc], Plain.component halvedCatalog
      (Employee.monthlyCtc ⟨"E1", "Asha", .mk false 120012 2, 0, none⟩) ∅ other =
        .ok (.mk false 500050 4)) ∧
    |(Decimal.mk false 120012 2).toRat / 12| +
      absoluteSum ([halfOfCtc].map fun _ => .mk false 500050 4) < 10 ^ 20 ∧
    ∃ breakdown, calculate ⟨"E1", "Asha", .mk false 120012 2, 0, none⟩
        ⟨"std", "Standard", ["basic", "gone", "fund", "rest"]⟩ halvedCatalog none = .ok breakdown ∧
      breakdown.totalEarnings = .mk false 10002 2 ∧
      |breakdown.totalEarnings.toRat - (roundToCents (monthlyShare (.mk false 120012 2))).toRat| ≤
        1 / 100 := by
  have distinct : halvedCatalog.ids.Nodup := by decide
  have balances : SalaryStructure.Balances ⟨"std", "Standard", ["basic", "gone", "fund", "rest"]⟩
      halvedCatalog restOfCtc [halfOfCtc] := ⟨rfl, rfl, by decide +kernel⟩
  have worth : ∀ other ∈ [halfOfCtc], Plain.component halvedCatalog
      (Employee.monthlyCtc ⟨"E1", "Asha", .mk false 120012 2, 0, none⟩) ∅ other =
        .ok (.mk false 500050 4) := by
    decide +kernel
  have small : |(Decimal.mk false 120012 2).toRat / 12| +
      absoluteSum ([halfOfCtc].map fun _ => .mk false 500050 4) < 10 ^ 20 := by
    decide +kernel
  have shown : ((calculate ⟨"E1", "Asha", .mk false 120012 2, 0, none⟩
      ⟨"std", "Standard", ["basic", "gone", "fund", "rest"]⟩ halvedCatalog none).toOption.map
        (·.totalEarnings)) = some (.mk false 10002 2) := by
    decide +kernel
  obtain ⟨breakdown, reached, total⟩ := Option.map_eq_some_iff.mp shown
  have made := Outcome.eq_ok_of_toOption_eq_some reached
  have near := totalEarnings_near_monthlyCtc distinct balances (by decide) worth small rfl made
  exact ⟨distinct, balances, by decide, worth, small, breakdown, made, total,
    near.trans (by norm_num)⟩

end Breakdown

end Payslip
