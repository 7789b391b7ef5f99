/-
# The verdict on a catalog and its amounts

The strict check looks for circular references by evaluating every component, on the idea that for
this any amounts will do. They nearly do. This module evaluates a catalog and its outline side by
side: the same ids are asked for in the same order and the same ids are in store, except that the
catalog may go out of range where the outline goes on. So there is one verdict for all catalogs
with an outline, and each of them is given it (`Delivers`) or, in place of an acceptance or of a
circular reference, a calculation out of range.

That exception cannot be left out: two fixed amounts whose sum is too large turn an acceptance
into a refusal (`validate_doubledCatalog_ne`). Malformed formulas and missing references are found
before anything is evaluated, and there amounts are without effect.
-/

import Mathlib.Data.List.Basic
import Payslip.Proofs.Evaluation.Contract
import Payslip.Proofs.Evaluation.Dependency
import Payslip.Proofs.Validation.Outline

namespace Payslip

open Evaluation

/-! ## What the components of an outline ask for -/

namespace Inquiry

variable {α β : Type}

/-- As long as every answer is zero or missing, the given ids are asked for in their order, and the
walk ends with a value as described. -/
inductive Asks (holds : α → Prop) : List String → Inquiry α → Prop
  | value {a : α} (fulfilled : holds a) : Asks holds [] (settled (.ok a))
  | question (id : String) (ids : List String) {next : Option Decimal → Inquiry α}
      (later : ∀ answer, (∀ amount ∈ answer, amount = 0) → Asks holds ids (next answer)) :
      Asks holds (id :: ids) (asking id next)

namespace Asks

variable {holds : α → Prop} {also : β → Prop}

theorem bind {first later : List String} {inquiry : Inquiry α} {next : α → Inquiry β}
    (asks : Asks holds first inquiry) (onward : ∀ a, holds a → Asks also later (next a)) :
    Asks also (first ++ later) (inquiry >>= next) := by
  induction asks with
  | value fulfilled => exact onward _ fulfilled
  | question id ids _ ih => exact .question id _ ih

theorem bind_nil {ids : List String} {inquiry : Inquiry α} {next : α → Inquiry β}
    (asks : Asks holds ids inquiry) (onward : ∀ a, holds a → Asks also [] (next a)) :
    Asks also ids (inquiry >>= next) := by
  simpa using asks.bind onward

end Asks

theorem amount_asks (reference : Reference) :
    Asks (· = 0) reference.componentId?.toList (reference.amount 0 0 ask) := by
  cases reference with
  | ctc => exact .value rfl
  | component id =>
      refine .question id [] fun answer null => .value ?_
      cases answer with
      | none => rfl
      | some amount => exact null amount rfl

theorem operand?_asks (term : Term) :
    Asks (fun operand => ∀ amount ∈ operand, amount = 0) term.componentId?.toList
      (Formula.operand? 0 ask term.outline) := by
  cases term with
  | operator op => exact .value fun _ none => by cases none
  | value reference =>
      refine (amount_asks reference).bind_nil fun base null => .value ?_
      rintro _ ⟨⟩
      exact null
  | percentage percent reference =>
      refine (amount_asks reference).bind_nil fun base null => ?_
      rw [null, percentOf_zero]
      refine .value ?_
      rintro _ ⟨⟩
      rfl

theorem operands_asks (terms : List Term) :
    Asks (fun operands => ∀ operand ∈ operands, operand = 0) (terms.filterMap Term.componentId?)
      (Formula.operands 0 ask (terms.map Term.outline)) := by
  induction terms with
  | nil => exact .value (List.forall_mem_nil _)
  | cons term rest ih =>
      rw [Term.filterMap_componentId?_cons]
      refine (operand?_asks term).bind fun operand null => ?_
      cases operand with
      | none => exact ih
      | some amount =>
          exact ih.bind_nil fun others zeros =>
            .value (List.forall_mem_cons.mpr ⟨null amount rfl, zeros⟩)

/-- A component of the outline asks for its dependencies and comes to zero. -/
theorem component_asks (component : Component) :
    Asks (· = 0) component.dependencies (component.outline.value 0 ask) := by
  rw [Component.value, Component.dependencies, Component.category_outline]
  cases component.category with
  | fixed => exact .value rfl
  | percentage =>
      refine (amount_asks component.basedOn).bind_nil fun base null => ?_
      rw [null]
      exact .value rfl
  | formula =>
      refine (operands_asks component.terms).bind_nil fun operands zeros => ?_
      rw [Formula.reduce_zeros _ zeros]
      exact .value rfl

end Inquiry

/-! ## A catalog and its outline side by side -/

/-- The outline's answer: no amount where there is none, and zero where there is one. -/
abbrev Nulls (answer outlined : Option Decimal) : Prop := outlined = answer.map fun _ => 0

theorem Nulls.eq_zero {answer outlined : Option Decimal} (nulls : Nulls answer outlined) :
    ∀ amount ∈ outlined, amount = 0 := by
  intro amount held
  rw [nulls] at held
  cases answer with
  | none => cases held
  | some _ => exact (Option.some.inj held).symm

/-- The amounts of the same ids are in store, and those in the second one are zero. -/
def Run.OutlinedBy (run outline : Run) : Prop :=
  ∀ id, Nulls (run.amounts.get? id) (outline.amounts.get? id)

theorem Run.OutlinedBy.holding {run outline : Run} (outlined : run.OutlinedBy outline) (id : String)
    (amount : Decimal) : (run.holding id amount).OutlinedBy (outline.holding id 0) := by
  intro other
  rw [amounts_holding, amounts_holding, Amounts.get?_insert, Amounts.get?_insert]
  split
  · rfl
  · exact outlined other

namespace Evaluation

variable {α β γ δ : Type} {same : α → β → Prop} {also : γ → δ → Prop}

/-- How a computation and its outline may end: with results that correspond, with the same circular
reference, or the first one out of range. The outline has no notice of the last, so it ends as it
would beside a computation that has gone on. -/
inductive Outlined (same : α → β → Prop) : Except PayError α × Run → Except PayError β × Run → Prop
  | result {a : α} {b : β} {run outline : Run} (corresponds : same a b)
      (runs : run.OutlinedBy outline) : Outlined same (.ok a, run) (.ok b, outline)
  | circular (cycle : List String) (run outline : Run) :
      Outlined same (.error (.circularReference cycle), run)
        (.error (.circularReference cycle), outline)
  | outOfRange (fault : CalculationFault) (run : Run) {instead : Except PayError α × Run}
      {outlined : Except PayError β × Run} (onward : Outlined same instead outlined) :
      Outlined same (.error (.calculation fault), run) outlined

/-- An outline ends with a result or with a circular reference. -/
theorem Outlined.ok_or_circular {first : Except PayError α × Run} {second : Except PayError β × Run}
    (outlined : Outlined same first second) :
    (∃ b, second.1 = .ok b) ∨ ∃ cycle, second.1 = .error (.circularReference cycle) := by
  induction outlined with
  | result => exact .inl ⟨_, rfl⟩
  | circular cycle => exact .inr ⟨cycle, rfl⟩
  | outOfRange _ _ _ ih => exact ih

/-- From corresponding runs, the two computations end correspondingly. -/
def OutlinedBy (same : α → β → Prop) (first : Evaluation α) (second : Evaluation β) : Prop :=
  ∀ run outline, run.OutlinedBy outline → Outlined same (runFrom first run) (runFrom second outline)

namespace OutlinedBy

theorem pure {a : α} {b : β} (corresponds : same a b) :
    OutlinedBy same (Pure.pure a) (Pure.pure b) := fun _ _ runs => .result corresponds runs

theorem note (event : Event) :
    OutlinedBy (fun _ _ => True) (Evaluation.note event) (Evaluation.note event) :=
  fun _ _ runs => .result trivial runs

theorem store (id : String) (amount : Decimal) :
    OutlinedBy (fun _ _ => True) (Evaluation.store id amount) (Evaluation.store id 0) :=
  fun _ _ runs => .result trivial (runs.holding id amount)

theorem bind {first : Evaluation α} {second : Evaluation β} {next : α → Evaluation γ}
    {after : β → Evaluation δ} (outlined : OutlinedBy same first second)
    (onward : ∀ a b, same a b → OutlinedBy also (next a) (after b)) :
    OutlinedBy also (first >>= next) (second >>= after) := by
  intro run outline runs
  have reached := outlined run outline runs
  rw [runFrom_bind, runFrom_bind]
  generalize runFrom first run = ending, runFrom second outline = outlining at reached ⊢
  induction reached with
  | result corresponds runs => exact onward _ _ corresponds _ _ runs
  | circular cycle run outline => exact .circular cycle run outline
  | outOfRange fault run _ ih => exact .outOfRange fault run ih

theorem discard {first : Evaluation α} {second : Evaluation β}
    (outlined : OutlinedBy same first second) :
    OutlinedBy (fun _ _ => True) (Functor.discard first) (Functor.discard second) := by
  intro run outline runs
  have reached := outlined run outline runs
  rw [runFrom_discard, runFrom_discard]
  generalize runFrom first run = ending, runFrom second outline = outlining at reached ⊢
  induction reached with
  | result _ runs => exact .result trivial runs
  | circular cycle run outline => exact .circular cycle run outline
  | outOfRange fault run _ ih => exact .outOfRange fault run ih

theorem forM {items : List γ} {image : γ → δ} {step : γ → Evaluation PUnit}
    {along : δ → Evaluation PUnit}
    (each : ∀ item, OutlinedBy (fun _ _ => True) (step item) (along (image item))) :
    OutlinedBy (fun _ _ => True) (items.forM step) ((items.map image).forM along) := by
  induction items with
  | nil => exact .pure trivial
  | cons item rest ih => exact (each item).bind fun _ _ _ => ih

/-- Where one inquiry asks for ids and the other one asks for them and comes to a value, the answers
may come from a catalog and from its outline. -/
theorem answer {ids : List String} {first second : Inquiry Decimal} {holds : Decimal → Prop}
    (follows : first.Follows ids) (asks : second.Asks holds ids)
    {give give' : String → Evaluation (Option Decimal)}
    (gives : ∀ id, OutlinedBy Nulls (give id) (give' id)) :
    OutlinedBy (fun _ => holds) (first.answer give) (second.answer give') := by
  induction asks generalizing first with
  | value fulfilled =>
      cases follows with
      | value a => exact .pure fulfilled
      | failure _ fault =>
          exact fun run _ runs => .outOfRange fault run (.result (a := 0) fulfilled runs)
  | question id ids later ih =>
      cases follows with
      | question _ _ onward =>
          exact (gives id).bind fun answer _ nulls => ih _ nulls.eq_zero (onward answer)
      | failure _ fault =>
          -- The outline goes on asking, as it would beside a walk that asked once more and failed.
          have instead := (gives id).bind fun _ _ nulls => ih _ nulls.eq_zero (.failure ids fault)
          exact fun run outline runs => .outOfRange fault run (instead run outline runs)

theorem value (monthly : Decimal) (component : Component)
    {give give' : String → Evaluation (Option Decimal)}
    (gives : ∀ id, OutlinedBy Nulls (give id) (give' id)) :
    OutlinedBy (fun _ amount => amount = 0) (component.value monthly give)
      (component.outline.value 0 give') := by
  rw [← Inquiry.answer_component give, ← Inquiry.answer_component give']
  exact answer (Inquiry.component_follows monthly component) (Inquiry.component_asks component)
    gives

end OutlinedBy

section Catalogs

variable {catalog : Catalog} {monthly : Decimal}

/-- Asking a catalog for an amount is outlined by asking its outline. -/
theorem amount?_outlinedBy (inProgress : List String) (id : String) :
    OutlinedBy Nulls (amount? catalog monthly inProgress id)
      (amount? catalog.outline 0 inProgress id) := by
  induction inProgress, id using catalog.followReferences with
  | step inProgress id deeper =>
      intro run outline runs
      have outlined := runs id
      cases held : run.amounts.get? id with
      | some amount =>
          rw [held] at outlined
          rw [runFrom_amount?_stored held, runFrom_amount?_stored outlined]
          exact .result rfl runs
      | none =>
          rw [held] at outlined
          have finds := catalog.component?_outline id
          cases found : catalog.component? id with
          | none =>
              rw [found] at finds
              rw [runFrom_amount?_missing held found, runFrom_amount?_missing outlined finds]
              exact .result rfl runs
          | some entry =>
              rw [found] at finds
              by_cases met : id ∈ inProgress
              · rw [runFrom_amount?_circular held found met,
                  runFrom_amount?_circular outlined finds met]
                exact .circular _ _ _
              · rw [runFrom_amount?_entered held found met,
                  runFrom_amount?_entered outlined finds met]
                have evaluated := OutlinedBy.value monthly entry (deeper entry found met)
                refine evaluated.bind ?_ _ _ runs
                rintro amount _ rfl
                exact (OutlinedBy.store id amount).bind fun _ _ _ => .pure rfl

theorem component_outlinedBy (entry : Component) :
    OutlinedBy (fun _ amount => amount = 0) (component catalog monthly entry)
      (component catalog.outline 0 entry.outline) :=
  (OutlinedBy.note (.entered [entry.id])).bind fun _ _ _ =>
    .value monthly entry (amount?_outlinedBy [entry.id])

end Catalogs

end Evaluation

/-! ## The verdict -/

/-- What may come of a check, given the verdict on the references: the verdict itself or, in place
of an acceptance or of a circular reference, a calculation out of range. -/
inductive Delivers : (verdict outcome : Except PayError Unit) → Prop
  | accepted : Delivers (.ok ()) (.ok ())
  | invalidFormula (id : String) (fault : FormulaFault) :
      Delivers (.error (.invalidFormula id fault)) (.error (.invalidFormula id fault))
  | componentNotFound (id : String) :
      Delivers (.error (.componentNotFound id)) (.error (.componentNotFound id))
  | circularReference (cycle : List String) :
      Delivers (.error (.circularReference cycle)) (.error (.circularReference cycle))
  | outOfRange (fault : CalculationFault) {verdict : Except PayError Unit}
      (replaced : verdict = .ok () ∨ ∃ cycle, verdict = .error (.circularReference cycle)) :
      Delivers verdict (.error (.calculation fault))

namespace Delivers

variable {verdict outcome again : Except PayError Unit}

theorem of_outlined {first second : Except PayError Unit × Run}
    (outlined : Outlined (fun _ _ => True) first second) : Delivers second.1 first.1 := by
  cases outlined with
  | result => exact .accepted
  | circular cycle => exact .circularReference cycle
  | outOfRange fault _ onward =>
      exact .outOfRange fault (onward.ok_or_circular.imp_left fun ⟨(), ended⟩ => ended)

/-- Where nothing goes out of range, one verdict means one outcome. -/
theorem eq_or_outOfRange (first : Delivers verdict outcome) (second : Delivers verdict again) :
    outcome = again ∨ (∃ fault, outcome = .error (.calculation fault)) ∨
      ∃ fault, again = .error (.calculation fault) := by
  cases second with
  | outOfRange fault => exact .inr (.inr ⟨fault, rfl⟩)
  | _ =>
      cases first with
      | outOfRange fault => exact .inr (.inl ⟨fault, rfl⟩)
      | _ => exact .inl rfl

end Delivers

/-- The greatest amount. -/
def Decimal.greatest : Decimal :=
  ⟨false, bound - 1, 0, Nat.sub_lt bound_pos Nat.one_pos, Nat.zero_le _⟩

namespace Catalog

/-- Every catalog is given the verdict of its outline unless it goes out of range. -/
theorem validate_delivers (catalog : Catalog) :
    Delivers catalog.outline.validate catalog.validate := by
  have entries : catalog.outline.forM catalog.outline.validateEntry =
      catalog.forM catalog.validateEntry := forM_validateEntry_outline catalog
  rw [validate, validate, entries, monthlyShare_zero]
  cases passed : catalog.forM catalog.validateEntry with
  | error error =>
      obtain ⟨entry, -, refused⟩ := Outcome.exists_error_of_forM_eq_error passed
      obtain ⟨id, fault, rfl⟩ | ⟨id, rfl⟩ := exists_of_validateEntry_eq_error refused
      · exact .invalidFormula id fault
      · exact .componentNotFound id
  | ok _ =>
      have evaluated : OutlinedBy (fun _ _ => True)
          (catalog.forM fun entry => discard (component catalog 0 entry))
          (catalog.outline.forM fun entry => discard (component catalog.outline 0 entry)) :=
        .forM fun entry => (component_outlinedBy entry).discard
      exact .of_outlined (evaluated (.start ∅) (.start ∅) fun _ => rfl)

/-- Catalogs with the same outline are given the same verdict on their references. Both come to it
unless a calculation goes out of range, which happens only where the verdict is an acceptance or a
circular reference. -/
theorem validate_of_outline_eq {catalog again : Catalog} (same : catalog.outline = again.outline) :
    Delivers catalog.outline.validate catalog.validate ∧
      Delivers catalog.outline.validate again.validate ∧
      (catalog.validate = again.validate ∨
        (∃ fault, catalog.validate = .error (.calculation fault)) ∨
        ∃ fault, again.validate = .error (.calculation fault)) := by
  have first := validate_delivers catalog
  have second := validate_delivers again
  rw [← same] at second
  exact ⟨first, second, first.eq_or_outOfRange second⟩

/-- An amount and its double, by a formula. -/
def doubledCatalog (amount : Decimal) : Catalog :=
  [.fixed "base" "Base" .earning amount,
    .formula "double" "Double" .earning
      [.value (.component "base"), .operator .add, .value (.component "base")]]

theorem validate_of_outline_eq_doubledCatalog :
    (doubledCatalog 0).outline = (doubledCatalog .greatest).outline ∧
      Delivers (doubledCatalog 0).outline.validate (doubledCatalog 0).validate ∧
      Delivers (doubledCatalog 0).outline.validate (doubledCatalog .greatest).validate ∧
      ((doubledCatalog 0).validate = (doubledCatalog .greatest).validate ∨
        (∃ fault, (doubledCatalog 0).validate = .error (.calculation fault)) ∨
        ∃ fault, (doubledCatalog .greatest).validate = .error (.calculation fault)) :=
  ⟨rfl, validate_of_outline_eq rfl⟩

/-- The exception is real: with the same references, one amount is accepted and another one refused,
for a reason that says nothing about references. -/
theorem validate_doubledCatalog_ne :
    (doubledCatalog 0).outline = (doubledCatalog .greatest).outline ∧
      (doubledCatalog 0).validate = .ok () ∧
      (doubledCatalog .greatest).validate =
        .error (.calculation (.operation .add .greatest .greatest)) := by
  refine ⟨rfl, ?_, ?_⟩
  · decide +kernel
  · decide +kernel

end Catalog

end Payslip
