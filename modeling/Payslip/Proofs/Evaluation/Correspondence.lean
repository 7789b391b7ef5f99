/-
# Two evaluations side by side

Two catalogs whose components differ only in how their numbers are represented are
evaluated in step: the same ids are asked for in the same order, the same amounts are in
store at every moment, and both evaluations fail at the same place or not at all. Nothing
is assumed of the catalogs, so this holds of repeated ids and of cycles too.

First the inquiries correspond (`component_alike`), whoever answers; then the evaluations
that answer them from a store (`amount?_corresponds`).
-/

import Payslip.Proofs.Evaluation.Contract
import Payslip.Proofs.Evaluation.Dependency
import Payslip.Proofs.Formula.Numbers

namespace Payslip

open Outcome (Alike)

/-- The same number, or no amount in both cases. -/
abbrev SameAnswer : Option Decimal → Option Decimal → Prop := Option.Rel Decimal.Alike

/-- What stands in for a missing amount is the same number too. -/
theorem SameAnswer.getD {amount again : Option Decimal} (same : SameAnswer amount again)
    {missing missing' : Decimal} (alike : missing.Alike missing') :
    (amount.getD missing).Alike (again.getD missing') := by
  cases same with
  | none => exact alike
  | some amounts => exact amounts

private theorem rel_cases {α β : Type} {same : α → β → Prop} {first : Option α} {second : Option β}
    (rel : Option.Rel same first second) :
    (first = none ∧ second = none) ∨ ∃ a b, first = some a ∧ second = some b ∧ same a b := by
  cases rel with
  | none => exact .inl ⟨rfl, rfl⟩
  | some corresponds => exact .inr ⟨_, _, rfl, rfl, corresponds⟩

/-! ## Inquiries -/

namespace Inquiry

variable {α β γ δ : Type} {same : α → β → Prop} {also : γ → δ → Prop}

/-- The same questions are asked, and the same answers lead to the same outcome. -/
inductive Alike (same : α → β → Prop) : Inquiry α → Inquiry β → Prop
  | settled {first : Except PayError α} {second : Except PayError β}
      (alike : Outcome.Alike same first second) : Alike same (.settled first) (.settled second)
  | asking (id : String) {next : Option Decimal → Inquiry α} {after : Option Decimal → Inquiry β}
      (onward : ∀ amount again, SameAnswer amount again → Alike same (next amount) (after again)) :
      Alike same (.asking id next) (.asking id after)

namespace Alike

theorem pure {a : α} {b : β} (corresponds : same a b) :
    Alike same (Pure.pure a) (Pure.pure b) := .settled (.ok corresponds)

theorem ofExcept {first : Except PayError α} {second : Except PayError β}
    (alike : Outcome.Alike same first second) :
    Alike same (MonadExcept.ofExcept first) (MonadExcept.ofExcept second) := by
  cases alike with
  | ok corresponds => exact .settled (.ok corresponds)
  | error alike => exact .settled (.error alike)

theorem ask (id : String) : Alike SameAnswer (Inquiry.ask id) (Inquiry.ask id) :=
  .asking id fun _ _ answered => .settled (.ok answered)

theorem bind {first : Inquiry α} {second : Inquiry β} {next : α → Inquiry γ} {after : β → Inquiry δ}
    (alike : Alike same first second) (onward : ∀ a b, same a b → Alike also (next a) (after b)) :
    Alike also (first >>= next) (second >>= after) := by
  induction alike with
  | settled alike =>
      cases alike with
      | ok corresponds => exact onward _ _ corresponds
      | error alike => exact .settled (.error alike)
  | asking id _ ih => exact .asking id ih

end Alike

variable {monthly monthly' : Decimal}

theorem amount_alike (alike : monthly.Alike monthly') {missing missing' : Decimal}
    (standIn : missing.Alike missing') (reference : Reference) :
    Alike Decimal.Alike (reference.amount monthly missing ask)
      (reference.amount monthly' missing' ask) := by
  cases reference with
  | ctc => exact .pure alike
  | component id => exact (Alike.ask id).bind fun _ _ answered => .pure (answered.getD standIn)

theorem operand?_alike (alike : monthly.Alike monthly') {term term' : Term}
    (terms : term.Alike term') :
    Alike SameAnswer (Formula.operand? monthly ask term) (Formula.operand? monthly' ask term') := by
  cases terms with
  | operator op => exact .pure .none
  | value reference =>
      exact (amount_alike alike (.refl 0) reference).bind fun _ _ amount => .pure (.some amount)
  | percentage percent reference =>
      apply (amount_alike alike (.refl 0) reference).bind
      intro base base' based
      exact (Alike.ofExcept (percentOf_alike based percent)).bind fun _ _ part => .pure (.some part)

theorem operands_alike (alike : monthly.Alike monthly') {terms terms' : List Term}
    (each : List.Forall₂ Term.Alike terms terms') :
    Alike (List.Forall₂ Decimal.Alike) (Formula.operands monthly ask terms)
      (Formula.operands monthly' ask terms') := by
  induction each with
  | nil => exact .pure .nil
  | cons first _ ih =>
      apply (operand?_alike alike first).bind
      intro operand operand' same
      cases same with
      | none => exact ih
      | some amounts => exact ih.bind fun _ _ others => .pure (.cons amounts others)

theorem operators_eq {terms terms' : List Term} (each : List.Forall₂ Term.Alike terms terms') :
    Formula.operators terms' = Formula.operators terms := by
  induction each with
  | nil => rfl
  | cons first _ ih =>
      rw [Formula.operators, Formula.operators] at *
      cases first with
      | operator op => exact congrArg (op :: ·) ih
      | value _ => exact ih
      | percentage _ _ => exact ih

/-- Alike components ask the same questions and come to the same values. -/
theorem component_alike (alike : monthly.Alike monthly') {component component' : Component}
    (components : component.Alike component') :
    Alike Decimal.Alike (component.value monthly ask) (component'.value monthly' ask) := by
  rw [Component.value, Component.value, components.category_eq]
  cases component.category with
  | fixed => exact .pure components.amount
  | percentage =>
      rw [components.basedOn_eq]
      exact (amount_alike alike alike component.basedOn).bind fun base base' based =>
        .ofExcept (percentOf_alike based components.amount)
  | formula =>
      apply (operands_alike alike components.terms).bind
      intro amounts amounts' each
      rw [operators_eq components.terms]
      exact .ofExcept (Formula.reduce_alike _ each)

end Inquiry

/-! ## Evaluations -/

/-- The same numbers are in store. -/
def Run.Alike (run again : Run) : Prop :=
  ∀ id, SameAnswer (run.amounts.get? id) (again.amounts.get? id)

theorem Run.Alike.holding {run again : Run} (alike : run.Alike again) (id : String)
    {amount amount' : Decimal} (same : amount.Alike amount') :
    (run.holding id amount).Alike (again.holding id amount') := by
  intro other
  rw [amounts_holding, amounts_holding, Amounts.get?_insert, Amounts.get?_insert]
  split
  · exact .some same
  · exact alike other

namespace Evaluation

variable {α β γ δ : Type} {same : α → β → Prop} {also : γ → δ → Prop}

/-- From alike runs, the two computations come to corresponding outcomes and to alike runs. -/
def Corresponds (same : α → β → Prop) (first : Evaluation α) (second : Evaluation β) : Prop :=
  ∀ run again, run.Alike again →
    Alike same (runFrom first run).1 (runFrom second again).1 ∧
      (runFrom first run).2.Alike (runFrom second again).2

namespace Corresponds

theorem pure {a : α} {b : β} (corresponds : same a b) :
    Corresponds same (Pure.pure a) (Pure.pure b) := fun _ _ alike => ⟨.ok corresponds, alike⟩

theorem ofExcept {first : Except PayError α} {second : Except PayError β}
    (outcomes : Alike same first second) :
    Corresponds same (MonadExcept.ofExcept first) (MonadExcept.ofExcept second) := by
  intro run again alike
  rw [runFrom_ofExcept, runFrom_ofExcept]
  exact ⟨outcomes, alike⟩

theorem bind {first : Evaluation α} {second : Evaluation β} {next : α → Evaluation γ}
    {after : β → Evaluation δ} (corresponds : Corresponds same first second)
    (onward : ∀ a b, same a b → Corresponds also (next a) (after b)) :
    Corresponds also (first >>= next) (second >>= after) := by
  intro run again alike
  have reached := corresponds run again alike
  rw [runFrom_bind, runFrom_bind]
  rcases ended : runFrom first run with ⟨outcome, middle⟩
  rcases ended' : runFrom second again with ⟨outcome', middle'⟩
  rw [ended, ended'] at reached
  obtain ⟨outcomes, runs⟩ := reached
  cases outcomes with
  | ok results => exact onward _ _ results middle middle' runs
  | error errors => exact ⟨.error errors, runs⟩

/-- Corresponding computations whose results do not matter. -/
theorem discard {first : Evaluation α} {second : Evaluation β}
    (corresponds : Corresponds same first second) :
    Corresponds (fun _ _ => True) (Functor.discard first) (Functor.discard second) := by
  intro run again alike
  obtain ⟨outcomes, runs⟩ := corresponds run again alike
  rw [runFrom_discard, runFrom_discard]
  exact ⟨outcomes.map fun _ _ _ => trivial, runs⟩

/-- Corresponding steps along two lists. -/
theorem forM {items : List γ} {others : List δ} {step : γ → Evaluation PUnit}
    {along : δ → Evaluation PUnit} (each : List.Forall₂ also items others)
    (onward : ∀ c d, also c d → Corresponds (fun _ _ => True) (step c) (along d)) :
    Corresponds (fun _ _ => True) (items.forM step) (others.forM along) := by
  induction each with
  | nil => exact .pure trivial
  | cons first _ ih => exact (onward _ _ first).bind fun _ _ _ => ih

/-- Alike inquiries that are answered alike. -/
theorem answer {first : Inquiry α} {second : Inquiry β} (alike : Inquiry.Alike same first second)
    {give give' : String → Evaluation (Option Decimal)}
    (gives : ∀ id, Corresponds SameAnswer (give id) (give' id)) :
    Corresponds same (first.answer give) (second.answer give') := by
  induction alike with
  | settled outcomes => exact .ofExcept outcomes
  | asking id _ ih => exact (gives id).bind ih

variable {monthly monthly' : Decimal}

theorem value (alike : monthly.Alike monthly') {component component' : Component}
    (components : component.Alike component') {give give' : String → Evaluation (Option Decimal)}
    (gives : ∀ id, Corresponds SameAnswer (give id) (give' id)) :
    Corresponds Decimal.Alike (component.value monthly give) (component'.value monthly' give') := by
  rw [← Inquiry.answer_component give, ← Inquiry.answer_component give']
  exact answer (Inquiry.component_alike alike components) gives

end Corresponds

section Catalogs

variable {catalog again : Catalog} {monthly monthly' : Decimal}

/-- Asking for an amount is answered alike when the catalogs have alike components under each id. -/
theorem amount?_corresponds (alike : monthly.Alike monthly')
    (finds : ∀ id, Option.Rel Component.Alike (catalog.component? id) (again.component? id))
    (inProgress : List String) (id : String) :
    Corresponds SameAnswer (amount? catalog monthly inProgress id)
      (amount? again monthly' inProgress id) := by
  induction inProgress, id using catalog.followReferences with
  | step inProgress id ih =>
      intro run run' runs
      rcases rel_cases (runs id) with ⟨held, held'⟩ | ⟨amount, amount', held, held', same⟩
      case inr =>
        rw [runFrom_amount?_stored held, runFrom_amount?_stored held']
        exact ⟨.ok (.some same), runs⟩
      rcases rel_cases (finds id) with ⟨found, found'⟩ | ⟨entry, entry', found, found', components⟩
      · rw [runFrom_amount?_missing held found, runFrom_amount?_missing held' found']
        exact ⟨.ok .none, runs⟩
      by_cases met : id ∈ inProgress
      · rw [runFrom_amount?_circular held found met, runFrom_amount?_circular held' found' met]
        exact ⟨.error (.circularReference _), runs⟩
      have values : Corresponds Decimal.Alike
          (entry.value monthly (amount? catalog monthly (id :: inProgress)))
          (entry'.value monthly' (amount? again monthly' (id :: inProgress))) :=
        .value alike components (ih entry found met)
      have reached := values (run.entering inProgress id) (run'.entering inProgress id) runs
      rcases ended : runFrom _ (run.entering inProgress id) with ⟨outcome, last⟩
      rcases ended' : runFrom _ (run'.entering inProgress id) with ⟨outcome', last'⟩
      rw [ended, ended'] at reached
      obtain ⟨outcomes, lasts⟩ := reached
      cases outcomes with
      | ok results =>
          rw [runFrom_amount?_evaluated held found met ended,
            runFrom_amount?_evaluated held' found' met ended']
          exact ⟨.ok (.some results), lasts.holding id results⟩
      | error errors =>
          rw [runFrom_amount?_failed held found met ended,
            runFrom_amount?_failed held' found' met ended']
          exact ⟨.error errors, lasts⟩

variable {entry entry' : Component}

theorem component_corresponds (alike : monthly.Alike monthly')
    (finds : ∀ id, Option.Rel Component.Alike (catalog.component? id) (again.component? id))
    (components : entry.Alike entry') :
    Corresponds Decimal.Alike (component catalog monthly entry)
      (component again monthly' entry') := by
  intro run run' runs
  have values : Corresponds Decimal.Alike
      (entry.value monthly (amount? catalog monthly [entry.id]))
      (entry'.value monthly' (amount? again monthly' [entry'.id])) := by
    rw [components.id_eq]
    exact .value alike components (amount?_corresponds alike finds [entry.id])
  simpa only [component, runFrom_bind, runFrom_note] using
    values (run.noted (.entered [entry.id])) (run'.noted (.entered [entry'.id])) runs

/-- An amount that is in store in one run is in store in the other. -/
theorem stored_corresponds (alike : monthly.Alike monthly')
    (finds : ∀ id, Option.Rel Component.Alike (catalog.component? id) (again.component? id))
    (components : entry.Alike entry') :
    Corresponds Decimal.Alike (stored catalog monthly entry) (stored again monthly' entry') := by
  intro run run' runs
  rw [stored, stored, runFrom_bind, runFrom_bind, runFrom_fetch, runFrom_fetch, components.id_eq]
  rcases rel_cases (runs entry.id) with ⟨held, held'⟩ | ⟨amount, amount', held, held', same⟩
  · rw [held, held']
    have evaluated : Corresponds Decimal.Alike
        (do
          let amount ← component catalog monthly entry
          store entry.id amount
          return amount)
        (do
          let amount ← component again monthly' entry'
          store entry.id amount
          return amount) := by
      apply (component_corresponds alike finds components).bind
      intro amount amount' same run run' runs
      exact ⟨.ok same, runs.holding entry.id same⟩
    exact evaluated run run' runs
  · rw [held, held']
    exact ⟨.ok same, runs⟩

end Catalogs

end Evaluation

end Payslip
