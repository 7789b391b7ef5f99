/-
# What a breakdown itemizes

A breakdown is made in two passes that share nothing but a store: the first evaluates
the components of the structure, the second takes their amounts out again, in another
order than they were put in, and counts a missing one as zero. `calculate_eq_plain`
says that the detour never shows when the ids of the catalog are distinct: the same
breakdown or the same error follows from the values that plain evaluation gives to
the components. No amount is ever missing, and no prorated amount is what another one
is computed from.

`Assessed` says what the components are worth and `Itemizes` what the breakdown then
has to be. `calculate_eq_ok_iff` says that this is all there is to a breakdown, in
both directions.
-/

import Payslip.Proofs.Breakdown.Passes
import Payslip.Proofs.Evaluation.Session

namespace Payslip

/-- Among distinct ids, every component is the one that is found under its id. -/
theorem Catalog.component?_of_mem {catalog : Catalog} (distinct : catalog.ids.Nodup)
    {component : Component} (listed : component ∈ catalog) :
    catalog.component? component.id = some component := by
  induction catalog with
  | nil => cases listed
  | cons first rest ih =>
      obtain ⟨apart, distinct⟩ := List.nodup_cons.mp distinct
      rcases List.mem_cons.mp listed with rfl | later
      · simp [Catalog.component?]
      · have different : first.id ≠ component.id := by
          intro same
          have repeated : component.id ∈ Catalog.ids rest := List.mem_map_of_mem later
          rw [← same] at repeated
          exact apart repeated
        have skipped : Catalog.component? (first :: rest) component.id =
            Catalog.component? rest component.id :=
          List.find?_cons_of_neg (by simpa using different)
        rw [skipped, ih distinct later]

namespace Breakdown

open Evaluation

variable {employee : Employee} {salaryStructure : SalaryStructure} {catalog : Catalog}
  {workingDays : Option UInt32}

/-! ## The store between the passes -/

/-- A component of the catalog that is evaluated and stored has its value in store, or fails with
the failure of its value. -/
theorem stored_meets (monthly : Decimal) {entry : Component}
    (found : catalog.component? entry.id = some entry) :
    Meets (Faithful catalog monthly ∅) (stored catalog monthly entry)
      (fun _ run => Faithful catalog monthly ∅ run)
      (fun error _ => Plain.component catalog monthly ∅ entry = .error error) := by
  refine .stored (fun _ _ faithful _ => faithful) ?_
  refine (component_agrees found).meets.weaken (fun _ given => given.1) ?_
    (fun _ _ failed => failed.1)
  intro amount run ⟨evaluated, faithful⟩
  have outset : Plain.amount? catalog monthly ∅ [] entry.id = .ok (some amount) := by
    rw [Plain.amount?_nil_of_component? rfl found, evaluated]
    rfl
  exact Amounts.Completes.insert faithful rfl .nil found outset

/-- The components with their values under plain evaluation. -/
def worth (catalog : Catalog) (monthly : Decimal) (components : List Component) :
    Except PayError (List (Component × Decimal)) :=
  components.mapM fun component =>
    (Plain.component catalog monthly ∅ component).map (component, ·)

/-- What is in store for a component of the catalog is its value. -/
theorem component_eq_of_faithful {monthly : Decimal} {run : Run} {component : Component}
    (faithful : Faithful catalog monthly ∅ run)
    (found : catalog.component? component.id = some component)
    (stored : run.amounts.get? component.id ≠ none) :
    Plain.component catalog monthly ∅ component =
      .ok ((run.amounts.get? component.id).getD 0) := by
  obtain ⟨amount, held⟩ := Option.ne_none_iff_exists'.mp stored
  obtain ⟨entry, same, evaluated⟩ := faithful.added component.id amount rfl held
  cases found.symm.trans same
  rw [held, evaluated]
  rfl

/-- After the first pass the values of all components are in store. The pass fails with the first
failure among them. -/
theorem evaluateAll_meets_worth (monthly : Decimal) {components : List Component}
    (each : ∀ component ∈ components, catalog.component? component.id = some component) :
    Meets (Faithful catalog monthly ∅) (evaluateAll catalog monthly components)
      (fun _ run => worth catalog monthly components =
        .ok (components.map fun component =>
          (component, (run.amounts.get? component.id).getD 0)))
      (fun error _ => worth catalog monthly components = .error error) := by
  have step : ∀ done component rest, components = done ++ component :: rest →
      Meets (fun run => Faithful catalog monthly ∅ run ∧
          ∀ earlier ∈ done, run.amounts.get? earlier.id ≠ none)
        (stored catalog monthly component) (fun _ => Faithful catalog monthly ∅)
        (fun error _ => worth catalog monthly components = .error error) := by
    intro done component rest whole run ⟨faithful, before⟩
    have listed : component ∈ components := by simp [whole]
    -- all that is behind had a value, so a failure here is the first one
    have passed : ∀ earlier ∈ done, ∃ line,
        (Plain.component catalog monthly ∅ earlier).map (earlier, ·) = .ok line := by
      intro earlier behind
      have found := each earlier (by simp [whole, behind])
      rw [component_eq_of_faithful faithful found (before earlier behind)]
      exact ⟨_, rfl⟩
    have first : ∀ error, Plain.component catalog monthly ∅ component = .error error →
        worth catalog monthly components = .error error := by
      intro error failed
      rw [worth, whole]
      apply Outcome.mapM_eq_error_of_append passed
      rw [failed]
      rfl
    exact (stored_meets monthly (each component listed)).weaken (fun _ given => given)
      (fun _ _ kept => kept) (fun error _ failed => first error failed) run faithful
  refine (evaluateAll_meets step).weaken (fun _ faithful => faithful) ?_ fun _ _ failed => failed
  intro _ run ⟨faithful, stored⟩
  apply Outcome.mapM_eq_ok_of_forall
  intro component listed
  rw [component_eq_of_faithful faithful (each component listed) (stored component listed)]
  rfl

/-- The store never shows: a breakdown is what plain evaluation of its components makes of it,
errors included. No amount is ever missing in the second pass. -/
theorem calculate_eq_plain (distinct : catalog.ids.Nodup) (employee : Employee)
    (salaryStructure : SalaryStructure) (workingDays : Option UInt32) :
    calculate employee salaryStructure catalog workingDays = (do
      let full ← worth catalog employee.monthlyCtc (salaryStructure.components catalog)
      let paid ← full.mapM fun line => (paidAmount employee line.1 line.2).map (line.1, ·)
      ofPaid employee salaryStructure.name (workingDays.getD defaultWorkingDays) paid) := by
  have each : ∀ component ∈ salaryStructure.components catalog,
      catalog.component? component.id = some component := fun component listed =>
    Catalog.component?_of_mem distinct (List.mem_filter.mp listed).1
  have passed := evaluateAll_meets_worth employee.monthlyCtc each (.start ∅)
    (.refl catalog employee.monthlyCtc ∅)
  rw [calculate, run, evaluate_eq, runFrom_bind]
  rcases ended : runFrom (evaluateAll catalog employee.monthlyCtc
    (salaryStructure.components catalog)) (.start ∅) with ⟨error | _, last⟩
  · rw [ended] at passed
    rw [passed]
    rfl
  · rw [ended] at passed
    rw [passed, Outcome.ok_bind, List.mapM_map]
    simp only [runFrom_bind, runFrom_fetchAll, Function.comp_def]
    rcases List.mapM _ _ with error | paid
    · rfl
    · simp only [runFrom_ofExcept, Outcome.ok_bind]

end Breakdown

/-! ## The lines -/

/-- What is due to an employee of the full value of a component: earnings that are marked for it are
prorated when there are unpaid days. -/
def dueAmount (employee : Employee) (component : Component) (full : Decimal) :
    Except PayError Decimal :=
  if component.kind = .earning ∧ component.prorated = true ∧ 0 < employee.unpaidDays then
    prorate full employee.unpaidDays
  else .ok full

/-- An employee is paid what is due, in cents. -/
theorem paidAmount_eq_map_dueAmount (employee : Employee) (component : Component)
    (full : Decimal) :
    paidAmount employee component full =
      (dueAmount employee component full).map roundToCents := by
  rw [paidAmount, dueAmount, isReduced]
  have same : (component.prorated && component.isEarning && employee.hasUnpaidDays) = true ↔
      component.kind = .earning ∧ component.prorated = true ∧ 0 < employee.unpaidDays := by
    simp only [Component.isEarning, Employee.hasUnpaidDays, Bool.and_eq_true, beq_iff_eq,
      decide_eq_true_eq]
    constructor
    · rintro ⟨⟨prorated, earning⟩, unpaid⟩
      exact ⟨earning, prorated, unpaid⟩
    · rintro ⟨earning, prorated, unpaid⟩
      exact ⟨⟨prorated, earning⟩, unpaid⟩
  by_cases reduced : component.kind = .earning ∧ component.prorated = true ∧
      0 < employee.unpaidDays
  · rw [if_pos (same.mpr reduced), if_pos reduced]
    cases prorate full employee.unpaidDays <;> rfl
  · rw [if_neg (mt same.mp reduced), if_neg reduced]
    rfl

namespace Breakdown

variable {employee : Employee} {salaryStructure : SalaryStructure} {catalog : Catalog}
  {workingDays : Option UInt32}

/-- The lines of one kind: one for each component of that kind, in their order, with what is due of
it in cents. -/
def dueLines (kind : Component.Kind) (components : List Component) (due : Component → Decimal) :
    List LineItem :=
  (components.filter (·.kind == kind)).map fun component =>
    ⟨component.name, roundToCents (due component)⟩

theorem lineItems_map (kind : Component.Kind) (components : List Component)
    (due : Component → Decimal) :
    lineItems kind (components.map fun component => (component, roundToCents (due component))) =
      dueLines kind components due := by
  rw [lineItems, dueLines, List.filter_map, List.map_map]
  rfl

theorem mapM_paidAmount {components : List Component} {full due : Component → Decimal}
    (owed : ∀ component ∈ components,
      dueAmount employee component (full component) = .ok (due component)) :
    ((components.map fun component => (component, full component)).mapM fun line =>
        (paidAmount employee line.1 line.2).map (line.1, ·)) =
      .ok (components.map fun component => (component, roundToCents (due component))) := by
  rw [List.mapM_map]
  apply Outcome.mapM_eq_ok_of_forall
  intro component listed
  show (paidAmount employee component (full component)).map (component, ·) = _
  rw [paidAmount_eq_map_dueAmount, owed component listed]
  rfl

theorem worth_of_forall {monthly : Decimal} {components : List Component}
    {full : Component → Decimal}
    (evaluated : ∀ component ∈ components,
      Plain.component catalog monthly ∅ component = .ok (full component)) :
    worth catalog monthly components =
      .ok (components.map fun component => (component, full component)) := by
  apply Outcome.mapM_eq_ok_of_forall
  intro component listed
  rw [evaluated component listed]
  rfl

/-- No component is lost and none is there twice. -/
theorem length_dueLines (components : List Component) (due : Component → Decimal) :
    (dueLines .earning components due).length + (dueLines .deduction components due).length =
      components.length := by
  simp only [dueLines, List.length_map]
  induction components with
  | nil => rfl
  | cons component rest ih =>
      cases kind : component.kind with
      | earning => simp [kind]; omega
      | deduction => simp [kind]; omega

/-- The components of a structure have these full values, and this is due of them. -/
structure Assessed (employee : Employee) (salaryStructure : SalaryStructure) (catalog : Catalog)
    (full due : Component → Decimal) : Prop where
  /-- The full value is that of plain evaluation, which stores nothing and prorates nothing. -/
  full_eq : ∀ component ∈ salaryStructure.components catalog,
    Plain.component catalog employee.monthlyCtc ∅ component = .ok (full component)
  due_eq : ∀ component ∈ salaryStructure.components catalog,
    dueAmount employee component (full component) = .ok (due component)

/-- The sums of the lines and the difference of the totals are in range. -/
def Summable (components : List Component) (due : Component → Decimal) : Prop :=
  ∃ earned deducted net,
    runningSum? ((dueLines .earning components due).map (·.amount)) = some earned ∧
      runningSum? ((dueLines .deduction components due).map (·.amount)) = some deducted ∧
      (roundToCents earned).sub? (roundToCents deducted) = some net

/-- The breakdown that shows what is due of the components of a structure. -/
structure Itemizes (employee : Employee) (salaryStructure : SalaryStructure) (catalog : Catalog)
    (workingDays : Option UInt32) (due : Component → Decimal) (breakdown : Breakdown) :
    Prop where
  employeeId_eq : breakdown.employeeId = employee.id
  employeeName_eq : breakdown.employeeName = employee.name
  structureName_eq : breakdown.structureName = salaryStructure.name
  earnings_eq :
    breakdown.earnings = dueLines .earning (salaryStructure.components catalog) due
  deductions_eq :
    breakdown.deductions = dueLines .deduction (salaryStructure.components catalog) due
  totalEarnings_eq : ∃ sum, runningSum? (breakdown.earnings.map (·.amount)) = some sum ∧
    breakdown.totalEarnings = roundToCents sum
  totalDeductions_eq : ∃ sum, runningSum? (breakdown.deductions.map (·.amount)) = some sum ∧
    breakdown.totalDeductions = roundToCents sum
  grossPay_eq : breakdown.grossPay = breakdown.totalEarnings
  netPay_eq : breakdown.totalEarnings.sub? breakdown.totalDeductions = some breakdown.netPay
  unpaidDays_eq : breakdown.unpaidDays = employee.unpaidDays
  workingDays_eq : breakdown.workingDays = workingDays.getD 30
  payableDays_eq : breakdown.payableDays = 30 - (employee.unpaidDays.toNat : Int)

theorem ofPaid_eq_ok_iff {due : Component → Decimal} {breakdown : Breakdown} :
    ofPaid employee salaryStructure.name (workingDays.getD defaultWorkingDays)
        ((salaryStructure.components catalog).map fun component =>
          (component, roundToCents (due component))) = .ok breakdown ↔
      Itemizes employee salaryStructure catalog workingDays due breakdown := by
  rw [ofPaid]
  simp only [lineItems_map]
  constructor
  · intro made
    obtain ⟨totalEarnings, earned, made⟩ := Outcome.bind_eq_ok_iff.mp made
    obtain ⟨totalDeductions, deducted, made⟩ := Outcome.bind_eq_ok_iff.mp made
    obtain ⟨net, left, made⟩ := Outcome.bind_eq_ok_iff.mp made
    cases made
    refine ⟨rfl, rfl, rfl, rfl, rfl, ?_, ?_, rfl, netPay_eq_ok_iff.mp left, rfl, rfl, rfl⟩
    · exact sumToCents_eq_ok_iff.mp earned
    · exact sumToCents_eq_ok_iff.mp deducted
  · intro itemizes
    have earned := sumToCents_eq_ok_iff.mpr itemizes.totalEarnings_eq
    have deducted := sumToCents_eq_ok_iff.mpr itemizes.totalDeductions_eq
    have left := netPay_eq_ok_iff.mpr itemizes.netPay_eq
    rw [itemizes.earnings_eq] at earned
    rw [itemizes.deductions_eq] at deducted
    rw [earned, Outcome.ok_bind, deducted, Outcome.ok_bind, left, Outcome.ok_bind]
    cases breakdown
    cases itemizes
    simp_all only
    rfl

/-- A breakdown is made exactly when every component of the structure has a full value and an amount
that is due, and when it itemizes what is due. -/
theorem calculate_eq_ok_iff {breakdown : Breakdown} (distinct : catalog.ids.Nodup) :
    calculate employee salaryStructure catalog workingDays = .ok breakdown ↔
      ∃ full due, Assessed employee salaryStructure catalog full due ∧
        Itemizes employee salaryStructure catalog workingDays due breakdown := by
  rw [calculate_eq_plain distinct]
  constructor
  · intro made
    obtain ⟨values, evaluated, made⟩ := Outcome.bind_eq_ok_iff.mp made
    obtain ⟨paid, lines, made⟩ := Outcome.bind_eq_ok_iff.mp made
    have valued : ∀ component ∈ salaryStructure.components catalog, ∃ amount,
        Plain.component catalog employee.monthlyCtc ∅ component = .ok amount := by
      intro component listed
      obtain ⟨line, given⟩ := Outcome.exists_ok_of_mapM_eq_ok evaluated component listed
      obtain ⟨amount, given, -⟩ := Outcome.map_eq_ok_iff.mp given
      exact ⟨amount, given⟩
    obtain ⟨full, full_eq⟩ := Outcome.exists_function_of_forall valued
    rw [worth_of_forall full_eq] at evaluated
    cases evaluated
    have owed : ∀ component ∈ salaryStructure.components catalog, ∃ amount,
        dueAmount employee component (full component) = .ok amount := by
      intro component listed
      have member := List.mem_map_of_mem (f := fun component => (component, full component)) listed
      obtain ⟨line, given⟩ := Outcome.exists_ok_of_mapM_eq_ok lines _ member
      obtain ⟨cents, given, -⟩ := Outcome.map_eq_ok_iff.mp given
      rw [paidAmount_eq_map_dueAmount] at given
      obtain ⟨amount, given, -⟩ := Outcome.map_eq_ok_iff.mp given
      exact ⟨amount, given⟩
    obtain ⟨due, due_eq⟩ := Outcome.exists_function_of_forall owed
    rw [mapM_paidAmount due_eq] at lines
    cases lines
    exact ⟨full, due, ⟨full_eq, due_eq⟩, ofPaid_eq_ok_iff.mp made⟩
  · rintro ⟨full, due, assessed, itemizes⟩
    rw [worth_of_forall assessed.full_eq, Outcome.ok_bind, mapM_paidAmount assessed.due_eq]
    exact ofPaid_eq_ok_iff.mpr itemizes

/-- What is due can be itemized exactly when its sums and the difference of the totals are in
range. -/
theorem exists_itemizes_iff {due : Component → Decimal} :
    (∃ breakdown, Itemizes employee salaryStructure catalog workingDays due breakdown) ↔
      Summable (salaryStructure.components catalog) due := by
  constructor
  · rintro ⟨breakdown, itemizes⟩
    obtain ⟨earned, sumOfEarnings, earnings⟩ := itemizes.totalEarnings_eq
    obtain ⟨deducted, sumOfDeductions, deductions⟩ := itemizes.totalDeductions_eq
    have left := itemizes.netPay_eq
    rw [itemizes.earnings_eq] at sumOfEarnings
    rw [itemizes.deductions_eq] at sumOfDeductions
    rw [earnings, deductions] at left
    exact ⟨earned, deducted, breakdown.netPay, sumOfEarnings, sumOfDeductions, left⟩
  · rintro ⟨earned, deducted, net, sumOfEarnings, sumOfDeductions, left⟩
    let breakdown : Breakdown := {
      employeeId := employee.id
      employeeName := employee.name
      structureName := salaryStructure.name
      earnings := dueLines .earning (salaryStructure.components catalog) due
      deductions := dueLines .deduction (salaryStructure.components catalog) due
      totalEarnings := roundToCents earned
      totalDeductions := roundToCents deducted
      grossPay := roundToCents earned
      netPay := net
      unpaidDays := employee.unpaidDays
      workingDays := workingDays.getD 30
      payableDays := 30 - (employee.unpaidDays.toNat : Int) }
    refine ⟨breakdown, rfl, rfl, rfl, rfl, rfl, ?_, ?_, rfl, left, rfl, rfl, rfl⟩
    · exact ⟨earned, sumOfEarnings, rfl⟩
    · exact ⟨deducted, sumOfDeductions, rfl⟩

/-- No amount of the breakdown is finer than cents. -/
structure InCents (breakdown : Breakdown) : Prop where
  earnings : ∀ item ∈ breakdown.earnings, item.amount.scale ≤ 2
  deductions : ∀ item ∈ breakdown.deductions, item.amount.scale ≤ 2
  totalEarnings : breakdown.totalEarnings.scale ≤ 2
  totalDeductions : breakdown.totalDeductions.scale ≤ 2
  grossPay : breakdown.grossPay.scale ≤ 2
  netPay : breakdown.netPay.scale ≤ 2

theorem scale_dueLines_le {kind : Component.Kind} {components : List Component}
    {due : Component → Decimal} {item : LineItem} (listed : item ∈ dueLines kind components due) :
    item.amount.scale ≤ 2 := by
  obtain ⟨component, -, rfl⟩ := List.mem_map.mp listed
  exact scale_roundToCents_le (due component)

theorem Itemizes.inCents {due : Component → Decimal} {breakdown : Breakdown}
    (itemizes : Itemizes employee salaryStructure catalog workingDays due breakdown) :
    breakdown.InCents := by
  have earned : breakdown.totalEarnings.scale ≤ 2 :=
    scale_sumToCents_le (sumToCents_eq_ok_iff.mpr itemizes.totalEarnings_eq)
  have deducted : breakdown.totalDeductions.scale ≤ 2 :=
    scale_sumToCents_le (sumToCents_eq_ok_iff.mpr itemizes.totalDeductions_eq)
  refine ⟨?_, ?_, earned, deducted, ?_, Decimal.scale_le_of_sub? earned deducted itemizes.netPay_eq⟩
  · rw [itemizes.earnings_eq]
    exact fun item => scale_dueLines_le
  · rw [itemizes.deductions_eq]
    exact fun item => scale_dueLines_le
  · rw [itemizes.grossPay_eq]
    exact earned

theorem inCents_of_calculate {breakdown : Breakdown} (distinct : catalog.ids.Nodup)
    (made : calculate employee salaryStructure catalog workingDays = .ok breakdown) :
    breakdown.InCents := by
  obtain ⟨_, _, -, itemizes⟩ := (calculate_eq_ok_iff distinct).mp made
  exact itemizes.inCents

/-- Among distinct ids a breakdown is made exactly when every component of the structure has a full
value, what is due of it can be computed, and the sums are in range. Its lines are then what is due
of each of these components once, in the order of the catalog and in cents, and its totals are the
totals of its lines. -/
theorem calculate_itemizes (distinct : catalog.ids.Nodup) :
    ((∃ breakdown, calculate employee salaryStructure catalog workingDays = .ok breakdown) ↔
      ∃ full due, Assessed employee salaryStructure catalog full due ∧
        Summable (salaryStructure.components catalog) due) ∧
    ∀ breakdown, calculate employee salaryStructure catalog workingDays = .ok breakdown →
      (∃ full due, Assessed employee salaryStructure catalog full due ∧
        Itemizes employee salaryStructure catalog workingDays due breakdown) ∧
      breakdown.earnings.length + breakdown.deductions.length =
        (salaryStructure.components catalog).length ∧
      breakdown.InCents := by
  constructor
  · constructor
    · rintro ⟨breakdown, made⟩
      obtain ⟨full, due, assessed, itemizes⟩ := (calculate_eq_ok_iff distinct).mp made
      exact ⟨full, due, assessed, exists_itemizes_iff.mp ⟨breakdown, itemizes⟩⟩
    · rintro ⟨full, due, assessed, summable⟩
      obtain ⟨breakdown, itemizes⟩ := exists_itemizes_iff.mpr summable
      exact ⟨breakdown, (calculate_eq_ok_iff distinct).mpr ⟨full, due, assessed, itemizes⟩⟩
  · intro breakdown made
    obtain ⟨full, due, assessed, itemizes⟩ := (calculate_eq_ok_iff distinct).mp made
    refine ⟨⟨full, due, assessed, itemizes⟩, ?_, itemizes.inCents⟩
    rw [itemizes.earnings_eq, itemizes.deductions_eq]
    exact length_dueLines _ _

/-- A formula in front of the prorated earning that it refers to, and a deduction behind it. -/
def shuffledCatalog : Catalog :=
  [.formula "hra" "House Rent" .earning
      [.percentage (.ofWord 50) (.component "basic"), .operator .add, .value (.component "fund")],
    (Component.percentage "basic" "Basic" .earning (.ofWord 40) .ctc).withProration,
    .percentage "fund" "Fund" .deduction (.ofWord 12) (.component "basic")]

theorem calculate_itemizes_shuffledCatalog :
    shuffledCatalog.ids.Nodup ∧
    ∃ breakdown, calculate ⟨"E1", "Asha", .ofWord 1000000, 4, none⟩
        ⟨"std", "Standard", ["basic", "hra", "fund"]⟩ shuffledCatalog none = .ok breakdown ∧
      (breakdown.earnings.map fun item => (item.name, item.amount.render)) =
        [("House Rent", "20666.67"), ("Basic", "28888.89")] ∧
      ∃ full due,
        Assessed ⟨"E1", "Asha", .ofWord 1000000, 4, none⟩
          ⟨"std", "Standard", ["basic", "hra", "fund"]⟩ shuffledCatalog full due ∧
        Itemizes ⟨"E1", "Asha", .ofWord 1000000, 4, none⟩
          ⟨"std", "Standard", ["basic", "hra", "fund"]⟩ shuffledCatalog none due breakdown := by
  have distinct : shuffledCatalog.ids.Nodup := by decide
  have shown : ((calculate ⟨"E1", "Asha", .ofWord 1000000, 4, none⟩
      ⟨"std", "Standard", ["basic", "hra", "fund"]⟩ shuffledCatalog none).toOption.map
        fun breakdown => breakdown.earnings.map fun item => (item.name, item.amount.render)) =
      some [("House Rent", "20666.67"), ("Basic", "28888.89")] := by
    decide +kernel
  cases made : calculate ⟨"E1", "Asha", .ofWord 1000000, 4, none⟩
      ⟨"std", "Standard", ["basic", "hra", "fund"]⟩ shuffledCatalog none with
  | error error =>
      rw [made] at shown
      cases shown
  | ok breakdown =>
      rw [made] at shown
      exact ⟨distinct, breakdown, rfl, Option.some.inj shown,
        ((calculate_itemizes distinct).2 breakdown made).1⟩

end Breakdown
end Payslip
