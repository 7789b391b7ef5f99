/-
# Amounts that grow with the cost to company

Fixed amounts, percentages that are not below zero and formulas that only add: in a catalog of such
components no amount is lower at a higher monthly cost. Every step of an evaluation rounds, and at
another scale when its result is larger, but rounding keeps the order.

Both evaluations have to have a result for this to mean anything: at a higher cost one may go out of
range that did not before, and the other way round. Nothing else is asked of the catalog: formulas
may lack operands or have too many, and references may lead nowhere.
-/

import Payslip.Proofs.Evaluation.Dependency
import Payslip.Proofs.Formula.Numbers
import Payslip.Proofs.Formula.Rounded

namespace Payslip

open Decimal (AtMost)

/-! ## Two outcomes -/

namespace Outcome

variable {α β γ δ : Type} {same : α → β → Prop} {also : γ → δ → Prop}

/-- If both outcomes are results, they correspond. -/
structure Related (same : α → β → Prop) (first : Except PayError α) (second : Except PayError β) :
    Prop where
  of_ok : ∀ a b, first = .ok a → second = .ok b → same a b

namespace Related

theorem ok {a : α} {b : β} (corresponds : same a b) : Related same (.ok a) (.ok b) where
  of_ok := by
    intro a b first second
    cases first
    cases second
    exact corresponds

theorem error (failure : PayError) (second : Except PayError β) :
    Related same (.error failure) second where
  of_ok := by
    intro a b first
    cases first

theorem bind {first : Except PayError α} {second : Except PayError β}
    {next : α → Except PayError γ} {after : β → Except PayError δ}
    (related : Related same first second)
    (onward : ∀ a b, same a b → Related also (next a) (after b)) :
    Related also (first >>= next) (second >>= after) where
  of_ok := by
    intro c d reached reached'
    obtain ⟨a, given, here⟩ := bind_eq_ok_iff.mp reached
    obtain ⟨b, given', there⟩ := bind_eq_ok_iff.mp reached'
    exact (onward a b (related.of_ok a b given given')).of_ok c d here there

theorem map {first : Except PayError α} {second : Except PayError β} {f : α → γ} {g : β → δ}
    (related : Related same first second) (onward : ∀ a b, same a b → also (f a) (g b)) :
    Related also (first.map f) (second.map g) where
  of_ok := by
    intro c d reached reached'
    obtain ⟨a, given, rfl⟩ := map_eq_ok_iff.mp reached
    obtain ⟨b, given', rfl⟩ := map_eq_ok_iff.mp reached'
    exact onward a b (related.of_ok a b given given')

theorem ofExcept {first : Except PayError α} {second : Except PayError β}
    (related : Related same first second) :
    Related same (MonadExcept.ofExcept first : Except PayError α)
      (MonadExcept.ofExcept second : Except PayError β) := by
  cases first <;> cases second <;> exact related

end Related

end Outcome

open Outcome (Related)

/-! ## Formulas of additions -/

/-- An addition, or an operand that does not shrink when what it refers to grows. -/
def Term.Grows : Term → Prop
  | .operator op => op = .add
  | .value _ => True
  | .percentage percent _ => 0 ≤ percent.toRat

instance Term.decidableGrows : DecidablePred Term.Grows
  | .operator op => inferInstanceAs (Decidable (op = .add))
  | .value _ => inferInstanceAs (Decidable True)
  | .percentage percent _ => inferInstanceAs (Decidable (0 ≤ percent.toRat))

/-- A component whose amount does not shrink when what it refers to grows. -/
structure Component.Grows (component : Component) : Prop where
  percentage : component.category = .percentage → 0 ≤ component.amount.toRat
  formula : component.category = .formula → ∀ term ∈ component.terms, term.Grows

instance Component.decidableGrows : DecidablePred Component.Grows := fun component =>
  decidable_of_iff
    ((component.category = .percentage → 0 ≤ component.amount.toRat) ∧
      (component.category = .formula → ∀ term ∈ component.terms, term.Grows))
    ⟨fun ⟨percentage, formula⟩ => ⟨percentage, formula⟩,
      fun grows => ⟨grows.percentage, grows.formula⟩⟩

theorem percentOf_related {base base' percent : Decimal} (raised : base.AtMost base')
    (nonneg : 0 ≤ percent.toRat) :
    Related AtMost (percentOf base percent) (percentOf base' percent) where
  of_ok := fun _ _ computed computed' => raised.percentOf nonneg computed computed'

theorem Operator.apply_eq_ok_iff {op : Operator} {left right result : Decimal} :
    op.apply left right = .ok result ↔ op.result? left right = some result := by
  rw [apply]
  split
  · next found => simp [found]
  · next beyond => simp [beyond]

theorem Operator.add_related {left left' right right' : Decimal} (first : left.AtMost left')
    (second : right.AtMost right') :
    Related AtMost (Operator.add.apply left right) (Operator.add.apply left' right') where
  of_ok := by
    intro sum sum' added added'
    exact first.add? second (Operator.apply_eq_ok_iff.mp added) (Operator.apply_eq_ok_iff.mp added')

namespace Formula

variable {operands operands' : List Decimal} {operators : List Operator} {terms : List Term}

theorem operators_of_grows (grows : ∀ term ∈ terms, term.Grows) :
    ∀ op ∈ Formula.operators terms, op = .add := by
  intro op listed
  obtain ⟨term, mentioned, same⟩ := List.mem_filterMap.mp listed
  cases term with
  | operator other =>
      cases same
      exact grows _ mentioned
  | value _ => cases same
  | percentage _ _ => cases same

/-- Additions are left to the second pass, with their operands in order. -/
theorem foldProducts_related (additive : ∀ op ∈ operators, op = .add)
    (each : List.Forall₂ AtMost operands operands') :
    Related (fun first second => List.Forall₂ AtMost first.1 second.1 ∧
        first.2 = operators ∧ second.2 = operators)
      (foldProducts operands operators) (foldProducts operands' operators) := by
  induction operators generalizing operands operands' with
  | nil => exact .ok ⟨each, rfl, rfl⟩
  | cons op rest ih =>
      obtain ⟨rfl, others⟩ := List.forall_mem_cons.mp additive
      apply (ih others (rel_tail each)).bind
      rintro ⟨summands, ops⟩ ⟨summands', ops'⟩ ⟨less, rfl, same⟩
      exact .ok ⟨.cons (rel_headD (.refl 0) each) less, rfl, congrArg (Operator.add :: ·) same⟩

theorem foldSums_related (additive : ∀ op ∈ operators, op = .add) {total total' : Decimal}
    (start : total.AtMost total') (each : List.Forall₂ AtMost operands operands') :
    Related AtMost (foldSums total operands operators) (foldSums total' operands' operators) := by
  induction operators generalizing total total' operands operands' with
  | nil => exact .ok start
  | cons op rest ih =>
      obtain ⟨rfl, others⟩ := List.forall_mem_cons.mp additive
      rw [foldSums, foldSums]
      apply (Operator.add_related start (rel_headD (.refl 0) each)).bind
      intro sum sum' less
      exact ih others less (rel_tail each)

theorem reduce_related (additive : ∀ op ∈ operators, op = .add)
    (each : List.Forall₂ AtMost operands operands') :
    Related AtMost (reduce operands operators) (reduce operands' operators) := by
  rw [reduce, reduce]
  apply (foldProducts_related additive each).bind
  rintro ⟨summands, ops⟩ ⟨summands', ops'⟩ ⟨less, rfl, rfl⟩
  exact foldSums_related additive (rel_headD (.refl 0) less) (rel_tail less)

end Formula

/-! ## Components -/

/-- No amount in both cases, or one that is no larger. -/
abbrev NoMore : Option Decimal → Option Decimal → Prop := Option.Rel AtMost

theorem NoMore.getD {amount amount' : Option Decimal} (less : NoMore amount amount')
    {missing missing' : Decimal} (standIn : missing.AtMost missing') :
    (amount.getD missing).AtMost (amount'.getD missing') := by
  cases less with
  | none => exact standIn
  | some amounts => exact amounts

section Value

variable {monthly monthly' : Decimal} {ask ask' : String → Except PayError (Option Decimal)}

theorem Reference.amount_related (raised : monthly.AtMost monthly') {missing missing' : Decimal}
    (standIn : missing.AtMost missing') (asks : ∀ id, Related NoMore (ask id) (ask' id))
    (reference : Reference) :
    Related AtMost (reference.amount monthly missing ask)
      (reference.amount monthly' missing' ask') := by
  cases reference with
  | ctc => exact .ok raised
  | component id => exact (asks id).bind fun _ _ less => .ok (less.getD standIn)

theorem Formula.operand?_related (raised : monthly.AtMost monthly')
    (asks : ∀ id, Related NoMore (ask id) (ask' id)) {term : Term} (grows : term.Grows) :
    Related NoMore (operand? monthly ask term) (operand? monthly' ask' term) := by
  cases term with
  | operator op => exact .ok .none
  | value reference =>
      exact (reference.amount_related raised (.refl 0) asks).bind fun _ _ less => .ok (.some less)
  | percentage percent reference =>
      apply (reference.amount_related raised (.refl 0) asks).bind
      intro base base' less
      exact (percentOf_related less grows).ofExcept.bind fun _ _ part => .ok (.some part)

theorem Formula.operands_related (raised : monthly.AtMost monthly')
    (asks : ∀ id, Related NoMore (ask id) (ask' id)) {terms : List Term}
    (grows : ∀ term ∈ terms, term.Grows) :
    Related (List.Forall₂ AtMost) (operands monthly ask terms) (operands monthly' ask' terms) := by
  induction terms with
  | nil => exact .ok .nil
  | cons term rest ih =>
      obtain ⟨first, others⟩ := List.forall_mem_cons.mp grows
      apply (operand?_related raised asks first).bind
      intro operand operand' less
      cases less with
      | none => exact ih others
      | some amounts => exact (ih others).bind fun _ _ less => .ok (.cons amounts less)

theorem Component.value_related (raised : monthly.AtMost monthly')
    (asks : ∀ id, Related NoMore (ask id) (ask' id)) {component : Component}
    (grows : component.Grows) :
    Related AtMost (component.value monthly ask) (component.value monthly' ask') := by
  rw [Component.value, Component.value]
  cases category : component.category with
  | fixed => exact .ok (.refl component.amount)
  | percentage =>
      apply (component.basedOn.amount_related raised raised asks).bind
      intro base base' less
      exact (percentOf_related less (grows.percentage category)).ofExcept
  | formula =>
      have terms := grows.formula category
      apply (Formula.operands_related raised asks terms).bind
      intro amounts amounts' less
      exact (Formula.reduce_related (Formula.operators_of_grows terms) less).ofExcept

end Value

/-! ## Catalogs -/

namespace Plain

variable {catalog : Catalog} {monthly monthly' : Decimal}

/-- At a higher monthly cost no component is asked for that has a lower amount. -/
theorem amount?_related (grows : ∀ component ∈ catalog, component.Grows)
    (raised : monthly.AtMost monthly') (known : Amounts) (inProgress : List String) (id : String) :
    Related NoMore (amount? catalog monthly known inProgress id)
      (amount? catalog monthly' known inProgress id) := by
  induction inProgress, id using catalog.followReferences with
  | step inProgress id deeper =>
      cases unknown : known.get? id with
      | some amount =>
          rw [amount?_of_known unknown, amount?_of_known unknown]
          exact .ok (.some (.refl amount))
      | none =>
          cases found : catalog.component? id with
          | none =>
              rw [amount?_of_missing unknown found, amount?_of_missing unknown found]
              exact .ok .none
          | some entry =>
              by_cases met : id ∈ inProgress
              · rw [amount?_of_mem unknown found met]
                exact .error _ _
              · rw [amount?_of_not_mem unknown found met, amount?_of_not_mem unknown found met]
                have values := Component.value_related raised (deeper entry found met)
                  (grows entry (Catalog.mem_of_component? found))
                exact values.map fun _ _ less => .some less

theorem component_related (grows : ∀ component ∈ catalog, component.Grows)
    (raised : monthly.AtMost monthly') (known : Amounts) {entry : Component}
    (listed : entry ∈ catalog) :
    Related AtMost (component catalog monthly known entry)
      (component catalog monthly' known entry) :=
  Component.value_related raised (amount?_related grows raised known [entry.id])
    (grows entry listed)

end Plain

end Payslip
