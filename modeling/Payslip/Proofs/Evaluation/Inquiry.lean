/-
# The questions behind a value

The rules for the value of a component leave open who answers for the components it
refers to. This module takes the most faithful answerer of all, one that only writes
the questions down: the value becomes a finite tree of questions, with one branch
for every answer. Evaluating under any other answerer is walking that tree, so the
two central facts are proved once and serve every evaluator of the library:

* `answer_component` says that walking the tree is evaluating;
* `component_follows` says that every path of the tree asks for the dependencies of
  the component, in their order, and may stop early only at a calculation that went
  out of range.

What an answer does to the store or to the trace of a run is no concern of this
module.
-/

import Payslip.Evaluation.Run
import Payslip.Proofs.Formula.Overflow

namespace Payslip

/-- A value as far as it is known before anybody has answered for a component. -/
inductive Inquiry (α : Type)
  /-- Nothing is left to ask. -/
  | settled (outcome : Except PayError α)
  /-- The amount of a component is asked for, and what comes next hangs on the answer. -/
  | asking (id : String) (next : Option Decimal → Inquiry α)

namespace Inquiry

variable {α β : Type}

/-- Goes on with the value once it is known. -/
def bind : Inquiry α → (α → Inquiry β) → Inquiry β
  | settled (.ok a), next => next a
  | settled (.error error), _ => settled (.error error)
  | asking id answered, next => asking id fun amount => (answered amount).bind next

/-- Goes on after a failure. -/
def recover : Inquiry α → (PayError → Inquiry α) → Inquiry α
  | settled (.ok a), _ => settled (.ok a)
  | settled (.error error), next => next error
  | asking id answered, next => asking id fun amount => (answered amount).recover next

instance : Monad Inquiry where
  pure a := settled (.ok a)
  bind := Inquiry.bind

instance : MonadExceptOf PayError Inquiry where
  throw error := settled (.error error)
  tryCatch := recover

/-- The question for one amount. -/
def ask (id : String) : Inquiry (Option Decimal) :=
  asking id fun amount => settled (.ok amount)

end Inquiry

/-- Nothing happens behind a failure. -/
class LawfulFailure (m : Type → Type) [Monad m] [MonadExceptOf PayError m] : Prop where
  throw_bind {α β : Type} (error : PayError) (next : α → m β) :
    ((throw error : m α) >>= next) = throw error

instance : LawfulFailure (Except PayError) := ⟨fun _ _ => rfl⟩

instance : LawfulFailure Evaluation := ⟨fun _ _ => rfl⟩

namespace Inquiry

variable {α β : Type} {m : Type → Type} [Monad m] [MonadExceptOf PayError m]

/-- Walks along the answers that somebody gives. -/
def answer (give : String → m (Option Decimal)) : Inquiry α → m α
  | settled outcome => MonadExcept.ofExcept outcome
  | asking id next => do answer give (next (← give id))

variable (give : String → m (Option Decimal))

@[simp]
theorem answer_pure (a : α) : answer give (pure a) = pure a := rfl

@[simp]
theorem answer_ofExcept (outcome : Except PayError α) :
    answer give (MonadExcept.ofExcept outcome) = MonadExcept.ofExcept outcome := by
  cases outcome <;> rfl

variable [LawfulMonad m]

@[simp]
theorem answer_ask (id : String) : answer give (ask id) = give id := by
  simp only [ask, answer, MonadExcept.ofExcept, bind_pure]

variable [LawfulFailure m]

@[simp]
theorem answer_bind (inquiry : Inquiry α) (next : α → Inquiry β) :
    answer give (inquiry >>= next) = answer give inquiry >>= fun a => answer give (next a) := by
  induction inquiry with
  | settled outcome =>
      cases outcome with
      | ok a => exact (pure_bind a fun a => answer give (next a)).symm
      | error error => exact (LawfulFailure.throw_bind error fun a => answer give (next a)).symm
  | asking id answered ih =>
      show (give id >>= fun amount => answer give ((answered amount).bind next)) = _
      simp only [answer, bind_assoc]
      exact congrArg _ (funext ih)

/-! ## Evaluating is walking the tree -/

variable (monthly : Decimal)

theorem answer_amount (missing : Decimal) (reference : Reference) :
    answer give (reference.amount monthly missing ask) =
      reference.amount monthly missing give := by
  cases reference with
  | ctc => rfl
  | component id => simp [Reference.amount]

theorem answer_operand? (term : Term) :
    answer give (Formula.operand? monthly ask term) = Formula.operand? monthly give term := by
  cases term with
  | operator op => rfl
  | value reference => simp [Formula.operand?, answer_amount]
  | percentage percent reference => simp [Formula.operand?, answer_amount]

theorem answer_operands (terms : List Term) :
    answer give (Formula.operands monthly ask terms) = Formula.operands monthly give terms := by
  induction terms with
  | nil => rfl
  | cons term rest ih =>
      simp only [Formula.operands, answer_bind, answer_operand?]
      congr 1
      funext operand
      cases operand with
      | none => exact ih
      | some amount => simp [ih]

theorem answer_formula (terms : List Term) :
    answer give (Formula.value monthly ask terms) = Formula.value monthly give terms := by
  simp [Formula.value, answer_operands]

/-- The value of a component, whoever answers, is found by walking its tree. -/
theorem answer_component (component : Component) :
    answer give (component.value monthly ask) = component.value monthly give := by
  unfold Component.value
  cases component.category with
  | fixed => rfl
  | percentage => simp [answer_amount]
  | formula => exact answer_formula give monthly component.terms

end Inquiry

/-! ## The questions follow the dependencies -/

theorem Term.filterMap_componentId?_cons (term : Term) (rest : List Term) :
    (term :: rest).filterMap componentId? =
      term.componentId?.toList ++ rest.filterMap componentId? := by
  cases named : term.componentId? <;> simp [named]

namespace Inquiry

variable {α β : Type}

/-- Every path of the tree asks for the given ids in their order. A path that ends with a value has
asked for all of them; one that ends early met a calculation out of range. -/
inductive Follows : List String → Inquiry α → Prop
  | value (a : α) : Follows [] (settled (.ok a))
  | failure (ids : List String) (fault : CalculationFault) :
      Follows ids (settled (.error (.calculation fault)))
  | question (id : String) (ids : List String) {next : Option Decimal → Inquiry α}
      (later : ∀ amount, Follows ids (next amount)) : Follows (id :: ids) (asking id next)

namespace Follows

theorem ask (id : String) : Follows [id] (Inquiry.ask id) :=
  .question id [] fun amount => .value amount

theorem bind {first later : List String} {inquiry : Inquiry α} {next : α → Inquiry β}
    (follows : Follows first inquiry) (onward : ∀ a, Follows later (next a)) :
    Follows (first ++ later) (inquiry >>= next) := by
  induction follows with
  | value a => exact onward a
  | failure ids fault => exact .failure _ fault
  | question id ids _ ih => exact .question id _ ih

theorem ofExcept {outcome : Except PayError α} (fails : FailsInCalculation outcome) :
    Follows [] (MonadExcept.ofExcept outcome : Inquiry α) := by
  cases outcome with
  | ok a => exact .value a
  | error error =>
      obtain ⟨fault, rfl⟩ := fails error rfl
      exact .failure [] fault

theorem bind_nil {ids : List String} {inquiry : Inquiry α} {next : α → Inquiry β}
    (follows : Follows ids inquiry) (onward : ∀ a, Follows [] (next a)) :
    Follows ids (inquiry >>= next) := by
  simpa using follows.bind onward

end Follows

variable (monthly : Decimal)

theorem amount_follows (missing : Decimal) (reference : Reference) :
    Follows reference.componentId?.toList (reference.amount monthly missing ask) := by
  cases reference with
  | ctc => exact .value monthly
  | component id => exact (Follows.ask id).bind_nil fun amount => .value _

theorem operand?_follows (term : Term) :
    Follows term.componentId?.toList (Formula.operand? monthly ask term) := by
  cases term with
  | operator op => exact .value none
  | value reference => exact (amount_follows monthly 0 reference).bind_nil fun _ => .value _
  | percentage percent reference =>
      apply (amount_follows monthly 0 reference).bind_nil
      intro base
      exact (Follows.ofExcept (percentOf_failsInCalculation base percent)).bind_nil
        fun part => .value (some part)

theorem operands_follows (terms : List Term) :
    Follows (terms.filterMap Term.componentId?) (Formula.operands monthly ask terms) := by
  induction terms with
  | nil => exact .value []
  | cons term rest ih =>
      rw [Term.filterMap_componentId?_cons]
      refine (operand?_follows monthly term).bind fun operand => ?_
      cases operand with
      | none => exact ih
      | some amount => exact ih.bind_nil fun others => .value (amount :: others)

/-- A formula asks for the components of its operands, from left to right. -/
theorem formula_follows (terms : List Term) :
    Follows (terms.filterMap Term.componentId?) (Formula.value monthly ask terms) :=
  (operands_follows monthly terms).bind_nil fun amounts =>
    .ofExcept (Formula.reduce_failsInCalculation amounts _)

/-- A component asks for its dependencies, in their order and as often as they are listed. -/
theorem component_follows (component : Component) :
    Follows component.dependencies (component.value monthly ask) := by
  rw [Component.value, Component.dependencies]
  cases component.category with
  | fixed => exact .value component.amount
  | percentage =>
      exact (amount_follows monthly monthly component.basedOn).bind_nil fun base =>
        .ofExcept (percentOf_failsInCalculation base component.amount)
  | formula => exact formula_follows monthly component.terms

/-! ## What a walk takes over from the answers -/

variable {ids : List String} {inquiry : Inquiry α}

/-- Only the answers for the ids that are asked for matter. -/
theorem answer_congr {m : Type → Type} [Monad m] [MonadExceptOf PayError m]
    {first second : String → m (Option Decimal)} (follows : Follows ids inquiry)
    (agree : ∀ id ∈ ids, first id = second id) :
    inquiry.answer first = inquiry.answer second := by
  induction follows with
  | value a => rfl
  | failure ids fault => rfl
  | question id ids _ ih =>
      simp only [answer, agree id List.mem_cons_self]
      congr 1
      funext amount
      exact ih amount fun other listed => agree other (List.mem_cons_of_mem id listed)

variable {give : String → Except PayError (Option Decimal)}

/-- A walk that ends with a value had an answer to every question. -/
theorem exists_answer_of_ok {a : α} (follows : Follows ids inquiry)
    (reached : inquiry.answer give = .ok a) : ∀ id ∈ ids, ∃ amount, give id = .ok amount := by
  induction follows with
  | value b => intro id listed; cases listed
  | failure ids fault => cases reached
  | question id ids _ ih =>
      obtain ⟨amount, given, later⟩ := Outcome.bind_eq_ok_iff.mp reached
      intro other listed
      rcases List.mem_cons.mp listed with rfl | beyond
      · exact ⟨amount, given⟩
      · exact ih amount later other beyond

/-- A walk that fails had a calculation out of range or an answer that failed. -/
theorem exists_answer_of_error {error : PayError} (follows : Follows ids inquiry)
    (failed : inquiry.answer give = .error error) :
    (∃ fault, error = .calculation fault) ∨ ∃ id ∈ ids, give id = .error error := by
  induction follows with
  | value a => cases failed
  | failure ids fault =>
      cases failed
      exact .inl ⟨fault, rfl⟩
  | question id ids _ ih =>
      simp only [answer] at failed
      cases given : give id with
      | error other =>
          rw [given] at failed
          cases failed
          exact .inr ⟨id, List.mem_cons_self, given⟩
      | ok amount =>
          rw [given] at failed
          rcases ih amount failed with outOfRange | ⟨other, listed, same⟩
          · exact .inl outOfRange
          · exact .inr ⟨other, List.mem_cons_of_mem id listed, same⟩

end Inquiry

namespace Component

variable {component : Component} {monthly : Decimal}

/-- The value of a component hangs on the amounts of its dependencies only. -/
theorem value_congr {m : Type → Type} [Monad m] [LawfulMonad m] [MonadExceptOf PayError m]
    [LawfulFailure m] {first second : String → m (Option Decimal)}
    (agree : ∀ id ∈ component.dependencies, first id = second id) :
    component.value monthly first = component.value monthly second := by
  rw [← Inquiry.answer_component first, ← Inquiry.answer_component second]
  exact Inquiry.answer_congr (Inquiry.component_follows monthly component) agree

variable {give : String → Except PayError (Option Decimal)}

/-- A component has a value only if none of its dependencies fails. -/
theorem exists_answer_of_value_eq_ok {amount : Decimal}
    (reached : component.value monthly give = .ok amount) :
    ∀ id ∈ component.dependencies, ∃ part, give id = .ok part := by
  rw [← Inquiry.answer_component] at reached
  exact Inquiry.exists_answer_of_ok (Inquiry.component_follows monthly component) reached

/-- The value of a component fails out of range or with the failure of a dependency. -/
theorem exists_answer_of_value_eq_error {error : PayError}
    (failed : component.value monthly give = .error error) :
    (∃ fault, error = .calculation fault) ∨
      ∃ id ∈ component.dependencies, give id = .error error := by
  rw [← Inquiry.answer_component] at failed
  exact Inquiry.exists_answer_of_error (Inquiry.component_follows monthly component) failed

end Component

end Payslip
