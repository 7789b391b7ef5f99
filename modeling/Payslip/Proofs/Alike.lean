/-
# Equal as far as it counts

Amounts count as numbers: `1.5` and `1.50` pay the same. Two values are `Alike` when they
are equal in everything but the representation of the amounts in them. This is what is
kept when a value is written and read back, and what is asked of two ways to come to the
same pay.
-/

import Mathlib.Data.List.Forall2
import Payslip.Breakdown
import Payslip.Proofs.Outcome

namespace Payslip

/-- The same number. -/
def Decimal.Alike (amount again : Decimal) : Prop := again.toRat = amount.toRat

/-- The same operator, the same reference, or percentages of the same number. -/
inductive Term.Alike : Term → Term → Prop
  | operator (op : Operator) : Alike (.operator op) (.operator op)
  | value (reference : Reference) : Alike (.value reference) (.value reference)
  | percentage {percent again : Decimal} (same : percent.Alike again) (reference : Reference) :
      Alike (.percentage percent reference) (.percentage again reference)

/-- Components that differ at most in how their numbers are represented. -/
structure Component.Alike (component again : Component) : Prop where
  id_eq : again.id = component.id
  name_eq : again.name = component.name
  kind_eq : again.kind = component.kind
  category_eq : again.category = component.category
  amount : component.amount.Alike again.amount
  basedOn_eq : again.basedOn = component.basedOn
  terms : List.Forall₂ Term.Alike component.terms again.terms
  prorated_eq : again.prorated = component.prorated

/-- Employees that differ at most in how their cost is represented. -/
structure Employee.Alike (employee again : Employee) : Prop where
  id_eq : again.id = employee.id
  name_eq : again.name = employee.name
  ctc : employee.ctc.Alike again.ctc
  unpaidDays_eq : again.unpaidDays = employee.unpaidDays
  structureId_eq : again.structureId = employee.structureId

/-- Lines with the same name and the same number. -/
structure LineItem.Alike (item again : LineItem) : Prop where
  name_eq : again.name = item.name
  amount : item.amount.Alike again.amount

/-- Breakdowns with the same lines and the same totals, as numbers. -/
structure Breakdown.Alike (breakdown again : Breakdown) : Prop where
  employeeId_eq : again.employeeId = breakdown.employeeId
  employeeName_eq : again.employeeName = breakdown.employeeName
  structureName_eq : again.structureName = breakdown.structureName
  earnings : List.Forall₂ LineItem.Alike breakdown.earnings again.earnings
  deductions : List.Forall₂ LineItem.Alike breakdown.deductions again.deductions
  totalEarnings : breakdown.totalEarnings.Alike again.totalEarnings
  totalDeductions : breakdown.totalDeductions.Alike again.totalDeductions
  grossPay : breakdown.grossPay.Alike again.grossPay
  netPay : breakdown.netPay.Alike again.netPay
  unpaidDays_eq : again.unpaidDays = breakdown.unpaidDays
  workingDays_eq : again.workingDays = breakdown.workingDays
  payableDays_eq : again.payableDays = breakdown.payableDays

/-- The same cycle of references, or calculations that both went out of range. -/
inductive PayError.Alike : PayError → PayError → Prop
  | circularReference (cycle : List String) :
      Alike (.circularReference cycle) (.circularReference cycle)
  | calculation (fault again : CalculationFault) :
      Alike (.calculation fault) (.calculation again)

/-! ## Outcomes -/

namespace Outcome

/-- Results that correspond, or alike errors. -/
inductive Alike {α β : Type} (same : α → β → Prop) : Except PayError α → Except PayError β → Prop
  | ok {a : α} {b : β} (corresponds : same a b) : Alike same (.ok a) (.ok b)
  | error {first second : PayError} (alike : first.Alike second) :
      Alike same (.error first) (.error second)

namespace Alike

variable {α β γ δ : Type} {same : α → β → Prop} {also : γ → δ → Prop}

theorem bind {first : Except PayError α} {second : Except PayError β}
    {next : α → Except PayError γ} {after : β → Except PayError δ} (alike : Alike same first second)
    (onward : ∀ a b, same a b → Alike also (next a) (after b)) :
    Alike also (first >>= next) (second >>= after) := by
  cases alike with
  | ok corresponds => exact onward _ _ corresponds
  | error alike => exact .error alike

theorem map {first : Except PayError α} {second : Except PayError β} {f : α → γ} {g : β → δ}
    (alike : Alike same first second) (onward : ∀ a b, same a b → also (f a) (g b)) :
    Alike also (first.map f) (second.map g) := by
  cases alike with
  | ok corresponds => exact .ok (onward _ _ corresponds)
  | error alike => exact .error alike

theorem exists_ok {first : Except PayError α} {second : Except PayError β} {a : α}
    (alike : Alike same first second) (reached : first = .ok a) :
    ∃ b, second = .ok b ∧ same a b := by
  cases alike with
  | ok corresponds =>
      cases reached
      exact ⟨_, rfl, corresponds⟩
  | error _ => cases reached

/-- A calculation has the same number as its result, or is out of range in both cases. -/
theorem ofOption (first second : Option Decimal) (fault again : CalculationFault) :
    second.map Decimal.toRat = first.map Decimal.toRat →
      Alike Decimal.Alike
        (match first with
          | some amount => .ok amount
          | none => .error (.calculation fault))
        (match second with
          | some amount => .ok amount
          | none => .error (.calculation again)) := by
  intro same
  cases first with
  | none =>
      cases second with
      | none => exact .error (.calculation fault again)
      | some _ => cases same
  | some _ =>
      cases second with
      | none => cases same
      | some _ => exact .ok (Option.some.inj same)

/-- Steps along two lists whose items correspond. -/
theorem mapM {items : List α} {others : List β} {step : α → Except PayError γ}
    {along : β → Except PayError δ} (each : List.Forall₂ same items others)
    (onward : ∀ a b, same a b → Alike also (step a) (along b)) :
    Alike (List.Forall₂ also) (items.mapM step) (others.mapM along) := by
  induction each with
  | nil => exact .ok .nil
  | cons corresponds _ ih =>
      rw [List.mapM_cons, List.mapM_cons]
      apply (onward _ _ corresponds).bind
      intro a b first
      exact ih.bind fun _ _ rest => .ok (.cons first rest)

theorem foldlM {items : List α} {others : List β} {step : γ → α → Except PayError γ}
    {along : δ → β → Except PayError δ} (each : List.Forall₂ same items others)
    (onward : ∀ c d a b, also c d → same a b → Alike also (step c a) (along d b)) {start : γ}
    {start' : δ} (starts : also start start') :
    Alike also (items.foldlM step start) (others.foldlM along start') := by
  induction each generalizing start start' with
  | nil => exact .ok starts
  | cons corresponds _ ih =>
      rw [List.foldlM_cons, List.foldlM_cons]
      exact (onward _ _ _ _ starts corresponds).bind fun _ _ reached => ih reached

end Alike

end Outcome

end Payslip
