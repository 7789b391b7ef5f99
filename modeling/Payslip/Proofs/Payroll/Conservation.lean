/-
# Money is conserved

Nothing is gained or lost when lines are added up to totals and net pays to a payroll, as long as
the amounts are in cents and their absolute values add up to less than `2 ^ 96 / 100`: every total
is then the exact sum of its parts, and the net pay is the exact difference. So the totals cannot
depend on the order of the lines either.

That amounts are in cents is no condition on the catalog. Whatever a breakdown pays has been
rounded to cents, also when ids are repeated.
-/

import Payslip.Proofs.Payroll.Order

namespace Payslip

open Evaluation

variable {amounts others : List Decimal}

/-! ## Exact sums and differences -/

theorem AddExactly.left_of_append (exactly : AddExactly (amounts ++ others)) :
    AddExactly amounts where
  inCents := fun amount listed => exactly.inCents amount (List.mem_append_left others listed)
  small := by
    have small := exactly.small
    have rest := absoluteSum_nonneg others
    rw [absoluteSum_append] at small
    linarith

theorem AddExactly.right_of_append (exactly : AddExactly (amounts ++ others)) :
    AddExactly others :=
  (exactly.perm List.perm_append_comm).left_of_append

/-- Totals in cents leave an exact net pay, if that is in range. -/
theorem exists_netPay_of_cents {earnings deductions : Decimal} (earned : earnings.scale ≤ 2)
    (deducted : deductions.scale ≤ 2)
    (small : |earnings.toRat - deductions.toRat| < 2 ^ 96 / 100) :
    ∃ net, netPay earnings deductions = .ok net ∧
      net.toRat = earnings.toRat - deductions.toRat := by
  have negated : deductions.negate.scale ≤ 2 := by rwa [Decimal.scale_negate]
  rw [sub_eq_add_neg, ← Decimal.toRat_negate] at small ⊢
  obtain ⟨net, left, net_eq⟩ := exists_add?_of_cents earned negated small
  exact ⟨net, netPay_eq_ok_iff.mpr left, net_eq⟩

namespace Breakdown

variable {employee : Employee} {salaryStructure : SalaryStructure} {catalog : Catalog}
  {workingDays : Option UInt32} {breakdown : Breakdown} {paid : List (Component × Decimal)}

/-! ## What is paid is in cents -/

theorem scale_le_of_paidAmount {component : Component} {full amount : Decimal}
    (paid : paidAmount employee component full = .ok amount) : amount.scale ≤ 2 := by
  rw [paidAmount_eq_map_dueAmount] at paid
  obtain ⟨due, -, rfl⟩ := Outcome.map_eq_ok_iff.mp paid
  exact scale_roundToCents_le due

/-- A breakdown is made of amounts that have been rounded to cents. -/
theorem exists_paid_of_calculate
    (made : calculate employee salaryStructure catalog workingDays = .ok breakdown) :
    ∃ paid, (∀ line ∈ paid, line.2.scale ≤ 2) ∧
      ofPaid employee salaryStructure.name (workingDays.getD defaultWorkingDays) paid =
        .ok breakdown := by
  rw [calculate, run, evaluate_eq, runFrom_bind] at made
  rcases ended : runFrom (evaluateAll catalog employee.monthlyCtc
    (salaryStructure.components catalog)) (.start ∅) with ⟨error | _, last⟩
  · rw [ended] at made
    cases made
  rw [ended] at made
  simp only [runFrom_bind, runFrom_fetchAll, runFrom_ofExcept] at made
  cases lines : (salaryStructure.components catalog).mapM fun component =>
      (paidAmount employee component ((last.amounts.get? component.id).getD 0)).map
        (component, ·) with
  | error error =>
      rw [lines] at made
      cases made
  | ok paid =>
      rw [lines] at made
      refine ⟨paid, Outcome.forall_of_mapM_eq_ok lines ?_, made⟩
      intro component line given
      obtain ⟨amount, due, rfl⟩ := Outcome.map_eq_ok_iff.mp given
      exact scale_le_of_paidAmount due

/-- The amounts of the lines that follow from what is paid. -/
def lineAmounts (paid : List (Component × Decimal)) : List Decimal :=
  (lineItems .earning paid ++ lineItems .deduction paid).map (·.amount)

theorem inCents_lineAmounts (each : ∀ line ∈ paid, line.2.scale ≤ 2) :
    ∀ amount ∈ lineAmounts paid, amount.scale ≤ 2 := by
  intro amount listed
  obtain ⟨item, shown, rfl⟩ := List.mem_map.mp listed
  obtain ⟨kind, ofKind⟩ : ∃ kind, item ∈ lineItems kind paid :=
    (List.mem_append.mp shown).elim (⟨_, ·⟩) (⟨_, ·⟩)
  obtain ⟨line, kept, rfl⟩ := List.mem_map.mp ofKind
  exact each line (List.mem_filter.mp kept).1

/-! ## Breakdowns that add up -/

/-- The totals of a breakdown are the exact sums of its lines, and the net pay is their exact
difference. -/
structure AddsUp (breakdown : Breakdown) : Prop where
  totalEarnings :
    breakdown.totalEarnings.toRat = exactSum (breakdown.earnings.map (·.amount))
  totalDeductions :
    breakdown.totalDeductions.toRat = exactSum (breakdown.deductions.map (·.amount))
  grossPay : breakdown.grossPay.toRat = exactSum (breakdown.earnings.map (·.amount))
  netPay : breakdown.netPay.toRat =
    exactSum (breakdown.earnings.map (·.amount)) - exactSum (breakdown.deductions.map (·.amount))

/-- No total of lines that add exactly is out of range, and none is off. -/
theorem exists_ofPaid_addsUp (employee : Employee) (structureName : String)
    (workingDays : UInt32) (exactly : AddExactly (lineAmounts paid)) :
    ∃ breakdown, ofPaid employee structureName workingDays paid = .ok breakdown ∧
      breakdown.earnings = lineItems .earning paid ∧
      breakdown.deductions = lineItems .deduction paid ∧ breakdown.AddsUp := by
  have small := exactly.small
  rw [lineAmounts, List.map_append] at exactly small
  rw [absoluteSum_append] at small
  obtain ⟨earned, summed, earned_eq⟩ := exactly.left_of_append.exists_sumToCents
  obtain ⟨deducted, summed', deducted_eq⟩ := exactly.right_of_append.exists_sumToCents
  have range : |earned.toRat - deducted.toRat| < 2 ^ 96 / 100 := by
    have first := abs_exactSum_le ((lineItems .earning paid).map (·.amount))
    have second := abs_exactSum_le ((lineItems .deduction paid).map (·.amount))
    have triangle := abs_sub earned.toRat deducted.toRat
    rw [earned_eq, deducted_eq] at triangle ⊢
    linarith
  obtain ⟨net, left, net_eq⟩ :=
    exists_netPay_of_cents (scale_sumToCents_le summed) (scale_sumToCents_le summed') range
  rw [ofPaid, summed, Outcome.ok_bind, summed', Outcome.ok_bind, left, Outcome.ok_bind]
  refine ⟨_, rfl, rfl, rfl, earned_eq, deducted_eq, earned_eq, ?_⟩
  rw [← earned_eq, ← deducted_eq]
  exact net_eq

/-- So it is for every breakdown whose lines are small enough. -/
theorem addsUp_of_calculate
    (made : calculate employee salaryStructure catalog workingDays = .ok breakdown)
    (small : absoluteSum breakdown.amounts < 2 ^ 96 / 100) : breakdown.AddsUp := by
  obtain ⟨paid, each, assembled⟩ := exists_paid_of_calculate made
  have lines : breakdown.amounts = lineAmounts paid := by
    obtain ⟨_, -, more⟩ := Outcome.bind_eq_ok_iff.mp assembled
    obtain ⟨_, -, more⟩ := Outcome.bind_eq_ok_iff.mp more
    obtain ⟨_, -, same⟩ := Outcome.bind_eq_ok_iff.mp more
    cases same
    rfl
  rw [lines] at small
  obtain ⟨again, assembled', -, -, addsUp⟩ := exists_ofPaid_addsUp employee salaryStructure.name
    (workingDays.getD defaultWorkingDays) ⟨inCents_lineAmounts each, small⟩
  cases assembled.symm.trans assembled'
  exact addsUp

theorem AddsUp.alike_of_perm {again : Breakdown} (addsUp : breakdown.AddsUp)
    (addsUp' : again.AddsUp) (earnings : breakdown.earnings.Perm again.earnings)
    (deductions : breakdown.deductions.Perm again.deductions) :
    breakdown.totalEarnings.Alike again.totalEarnings ∧
      breakdown.totalDeductions.Alike again.totalDeductions ∧
      breakdown.netPay.Alike again.netPay := by
  have earned := exactSum_perm (earnings.map (·.amount))
  have deducted := exactSum_perm (deductions.map (·.amount))
  refine ⟨?_, ?_, ?_⟩
  · rw [Decimal.Alike, addsUp.totalEarnings, addsUp'.totalEarnings, earned]
  · rw [Decimal.Alike, addsUp.totalDeductions, addsUp'.totalDeductions, deducted]
  · rw [Decimal.Alike, addsUp.netPay, addsUp'.netPay, earned, deducted]

end Breakdown

namespace Payroll

open Breakdown (lineAmounts ofPaid shuffledCatalog)

variable {employees : List Employee} {structures : List SalaryStructure} {catalog : Catalog}
  {workingDays : Option UInt32} {breakdowns : List Breakdown}

theorem scale_netPay_le_of_payAll {days : UInt32}
    (paid : payAll employees structures catalog days = .ok breakdowns) :
    ∀ net ∈ breakdowns.map (·.netPay), net.scale ≤ 2 := by
  refine List.forall_mem_map.mpr (Outcome.forall_of_mapM_eq_ok paid ?_)
  intro pay breakdown made
  obtain ⟨lines, -, assembled⟩ := Breakdown.exists_paid_of_calculate made
  obtain ⟨earned, summed, more⟩ := Outcome.bind_eq_ok_iff.mp assembled
  obtain ⟨deducted, summed', more⟩ := Outcome.bind_eq_ok_iff.mp more
  obtain ⟨net, left, same⟩ := Outcome.bind_eq_ok_iff.mp more
  cases same
  exact Decimal.scale_le_of_sub? (scale_sumToCents_le summed) (scale_sumToCents_le summed')
    (netPay_eq_ok_iff.mp left)

/-- Net pays that are small enough have a total, and it is their exact sum. -/
theorem exists_calculate_of_payAll (assigned : employees.all (·.structureId.isNone) = false)
    (paid : payAll employees structures catalog (workingDays.getD defaultWorkingDays) =
      .ok breakdowns)
    (small : absoluteSum (breakdowns.map (·.netPay)) < 2 ^ 96 / 100) :
    ∃ payroll, calculate employees structures catalog workingDays = .ok payroll ∧
      payroll.breakdowns = breakdowns ∧
      payroll.total.toRat = exactSum (breakdowns.map (·.netPay)) := by
  have exactly : AddExactly (breakdowns.map (·.netPay)) := ⟨scale_netPay_le_of_payAll paid, small⟩
  obtain ⟨total, summed, total_eq⟩ := exactly.exists_sumToCents
  rw [calculate_of_not_all_isNone (by simp [assigned]), paid, Outcome.ok_bind, ofBreakdowns, summed]
  exact ⟨_, rfl, rfl, total_eq⟩

/-- Lines in cents whose absolute values add up to less than `2 ^ 96 / 100` have totals and a net
pay, all of them exact and the same in any order of the lines; every breakdown with such lines adds
up; and breakdowns with such net pays make a payroll whose total is their exact sum. -/
theorem totals_exact :
    (∀ (employee : Employee) (structureName : String) (workingDays : UInt32)
      (paid : List (Component × Decimal)), AddExactly (lineAmounts paid) →
      ∃ breakdown, ofPaid employee structureName workingDays paid = .ok breakdown ∧
        breakdown.earnings = lineItems .earning paid ∧
        breakdown.deductions = lineItems .deduction paid ∧ breakdown.AddsUp ∧
        ∀ shuffled, (lineItems .earning paid).Perm (lineItems .earning shuffled) →
          (lineItems .deduction paid).Perm (lineItems .deduction shuffled) →
          ∃ again, ofPaid employee structureName workingDays shuffled = .ok again ∧
            breakdown.totalEarnings.Alike again.totalEarnings ∧
            breakdown.totalDeductions.Alike again.totalDeductions ∧
            breakdown.netPay.Alike again.netPay) ∧
    (∀ employee salaryStructure catalog workingDays breakdown,
      Breakdown.calculate employee salaryStructure catalog workingDays = .ok breakdown →
      absoluteSum breakdown.amounts < 2 ^ 96 / 100 → breakdown.AddsUp) ∧
    ∀ (employees : List Employee) structures catalog (workingDays : Option UInt32) breakdowns,
      employees.all (·.structureId.isNone) = false →
      payAll employees structures catalog (workingDays.getD defaultWorkingDays) = .ok breakdowns →
      absoluteSum (breakdowns.map (·.netPay)) < 2 ^ 96 / 100 →
      ∃ payroll, calculate employees structures catalog workingDays = .ok payroll ∧
        payroll.breakdowns = breakdowns ∧
        payroll.total.toRat = exactSum (breakdowns.map (·.netPay)) := by
  refine ⟨?_, fun _ _ _ _ _ => Breakdown.addsUp_of_calculate,
    fun _ _ _ _ _ => exists_calculate_of_payAll⟩
  intro employee structureName workingDays paid exactly
  obtain ⟨breakdown, made, earnings, deductions, addsUp⟩ :=
    Breakdown.exists_ofPaid_addsUp employee structureName workingDays exactly
  refine ⟨breakdown, made, earnings, deductions, addsUp, ?_⟩
  intro shuffled earned deducted
  have lines : (lineAmounts paid).Perm (lineAmounts shuffled) := (earned.append deducted).map _
  obtain ⟨again, made', earnings', deductions', addsUp'⟩ :=
    Breakdown.exists_ofPaid_addsUp employee structureName workingDays (exactly.perm lines)
  rw [← earnings, ← earnings'] at earned
  rw [← deductions, ← deductions'] at deducted
  exact ⟨again, made', addsUp.alike_of_perm addsUp' earned deducted⟩

/-- What is paid of two earnings, one of them taken back, and of a deduction. -/
def settledLines : List (Component × Decimal) :=
  [(.fixed "basic" "Basic" .earning 0, .mk false 4166667 2),
    (.fixed "fund" "Fund" .deduction 0, .ofWord 5000),
    (.fixed "advance" "Advance" .earning 0, .mk true 123450 2)]

theorem totals_exact_mixedStaff :
    AddExactly (lineAmounts settledLines) ∧
    (lineItems .earning settledLines).Perm (lineItems .earning settledLines.reverse) ∧
    (∃ breakdown, ofPaid ⟨"E1", "Asha", .ofWord 1000000, 0, none⟩ "Standard" 30 settledLines =
        .ok breakdown ∧ breakdown.AddsUp ∧
      ∃ again, ofPaid ⟨"E1", "Asha", .ofWord 1000000, 0, none⟩ "Standard" 30
        settledLines.reverse = .ok again ∧ breakdown.netPay.Alike again.netPay) ∧
    mixedStaff.all (·.structureId.isNone) = false ∧
    ∃ breakdowns, payAll mixedStaff standardOnly shuffledCatalog 30 = .ok breakdowns ∧
      absoluteSum (breakdowns.map (·.netPay)) < 2 ^ 96 / 100 ∧
      ∃ payroll, calculate mixedStaff standardOnly shuffledCatalog none = .ok payroll ∧
        payroll.breakdowns = breakdowns ∧
        payroll.total.toRat = exactSum (breakdowns.map (·.netPay)) := by
  obtain ⟨ofLines, -, ofPays⟩ := totals_exact
  have exactly : AddExactly (lineAmounts settledLines) := ⟨by decide, by decide +kernel⟩
  have earnings : (lineItems .earning settledLines).Perm
      (lineItems .earning settledLines.reverse) := by decide +kernel
  have assigned : mixedStaff.all (·.structureId.isNone) = false := by decide
  obtain ⟨breakdown, made, -, -, addsUp, shuffled⟩ :=
    ofLines ⟨"E1", "Asha", .ofWord 1000000, 0, none⟩ "Standard" 30 settledLines exactly
  obtain ⟨again, made', -, -, net⟩ := shuffled settledLines.reverse earnings (by decide +kernel)
  have small : (payAll mixedStaff standardOnly shuffledCatalog 30).toOption.any
      (fun breakdowns => decide (absoluteSum (breakdowns.map (·.netPay)) < 2 ^ 96 / 100)) =
        true := by
    decide +kernel
  refine ⟨exactly, earnings, ⟨breakdown, made, addsUp, again, made', net⟩, assigned, ?_⟩
  cases paid : payAll mixedStaff standardOnly shuffledCatalog 30 with
  | error error =>
      rw [paid] at small
      cases small
  | ok breakdowns =>
      rw [paid] at small
      have small := of_decide_eq_true small
      exact ⟨breakdowns, rfl, small,
        ofPays mixedStaff standardOnly shuffledCatalog none breakdowns assigned paid small⟩

-- At the bound itself the last cent no longer fits, and the total is off.
example :
    absoluteSum [.mk false (2 ^ 96 - 1) 2, .mk false 1 2] = 2 ^ 96 / 100 ∧
      (sumToCents [.mk false (2 ^ 96 - 1) 2, .mk false 1 2]).toOption.map Decimal.toRat ≠
        some (exactSum [.mk false (2 ^ 96 - 1) 2, .mk false 1 2]) := by
  decide +kernel

end Payroll

end Payslip
