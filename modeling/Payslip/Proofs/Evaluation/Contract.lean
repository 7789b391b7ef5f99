/-
# What a computation within a run keeps and brings about

An evaluation reads and changes the run it is part of, and may fail on the way with
part of the work done. Facts about evaluations are therefore stated as contracts:
from every run of one kind, a computation ends with a result and a run of another
kind, or fails and leaves a run of a third kind. `Agrees` is the contract by which
a computation computes what a function without any run does.

The module adds the contracts of the basic steps, of steps in a row, of steps along
a list and of inquiries, and says what `amount?` does in each of its cases, so that
nothing behind it has to look into the monad.
-/

import Payslip.Evaluation.Plain
import Payslip.Proofs.Evaluation.Inquiry

namespace Payslip

/-! ## The store -/

namespace Amounts

private theorem lookup_cons_eq (key other : String) (value : Decimal)
    (rest : List (String × Decimal)) :
    ((key, value) :: rest).lookup other =
      if other = key then some value else rest.lookup other := by
  by_cases hit : other = key
  · simp [hit]
  · simp [List.lookup_cons, hit, beq_eq_false_iff_ne.mpr hit]

theorem get?_insert (amounts : Amounts) (id other : String) (amount : Decimal) :
    (amounts.insert id amount).get? other =
      if other = id then some amount else amounts.get? other := by
  obtain ⟨entries⟩ := amounts
  show (insert.go id amount entries).lookup other = if other = id then _ else entries.lookup other
  induction entries with
  | nil => simp [insert.go, lookup_cons_eq]
  | cons entry rest ih =>
      obtain ⟨key, value⟩ := entry
      by_cases held : key = id
      · subst held
        simp only [insert.go, ↓reduceIte, lookup_cons_eq]
        split <;> rfl
      · simp only [insert.go, held, ↓reduceIte, lookup_cons_eq, ih]
        by_cases hit : other = key
        · simp [hit, held]
        · simp [hit]

end Amounts

/-! ## Single steps -/

namespace Run

/-- The run, in which one more thing has happened. -/
def noted (run : Run) (event : Event) : Run := { run with trace := event :: run.trace }

/-- The run, with one more amount in store. -/
def holding (run : Run) (id : String) (amount : Decimal) : Run :=
  { run with amounts := run.amounts.insert id amount }

/-- The run in which the evaluation of a component that was asked for has just begun. -/
def entering (run : Run) (inProgress : List String) (id : String) : Run :=
  ((run.noted (.asked inProgress id)).noted (.searched id)).noted (.entered (id :: inProgress))

@[simp]
theorem amounts_noted (run : Run) (event : Event) : (run.noted event).amounts = run.amounts := rfl

@[simp]
theorem amounts_holding (run : Run) (id : String) (amount : Decimal) :
    (run.holding id amount).amounts = run.amounts.insert id amount := rfl

end Run

namespace Evaluation

variable {α β : Type}

@[simp]
theorem runFrom_pure (a : α) (run : Run) : runFrom (pure a) run = (.ok a, run) := rfl

@[simp]
theorem runFrom_throw (error : PayError) (run : Run) :
    runFrom (throw error : Evaluation α) run = (.error error, run) := rfl

@[simp]
theorem runFrom_ofExcept (outcome : Except PayError α) (run : Run) :
    runFrom (MonadExcept.ofExcept outcome : Evaluation α) run = (outcome, run) := by
  cases outcome <;> rfl

@[simp]
theorem runFrom_note (event : Event) (run : Run) :
    runFrom (note event) run = (.ok (), run.noted event) := rfl

@[simp]
theorem runFrom_fetch (id : String) (run : Run) :
    runFrom (fetch id) run = (.ok (run.amounts.get? id), run) := rfl

@[simp]
theorem runFrom_store (id : String) (amount : Decimal) (run : Run) :
    runFrom (store id amount) run = (.ok (), run.holding id amount) := rfl

theorem runFrom_bind (first : Evaluation α) (next : α → Evaluation β) (run : Run) :
    runFrom (first >>= next) run =
      match runFrom first run with
      | (.ok a, run) => runFrom (next a) run
      | (.error error, run) => (.error error, run) := by
  simp only [runFrom, ExceptT.run_bind, StateT.run_bind]
  show (match (ExceptT.run first).run run with | (outcome, run) => _) = _
  rcases (ExceptT.run first).run run with ⟨_ | _, _⟩ <;> rfl

@[simp]
theorem runFrom_map (f : α → β) (evaluation : Evaluation α) (run : Run) :
    runFrom (f <$> evaluation) run =
      ((runFrom evaluation run).1.map f, (runFrom evaluation run).2) := by
  rw [← bind_pure_comp, runFrom_bind]
  rcases runFrom evaluation run with ⟨_ | _, _⟩ <;> rfl

@[simp]
theorem runFrom_discard (evaluation : Evaluation α) (run : Run) :
    runFrom (Functor.discard evaluation) run =
      ((runFrom evaluation run).1.map fun _ => (), (runFrom evaluation run).2) := by
  rw [Functor.discard, map_const, Function.comp_apply, runFrom_map]

/-! ## Asking for an amount -/

/-- The steps of asking for an amount, without the proof that they come to an end. -/
theorem amount?_eq (catalog : Catalog) (monthly : Decimal) (inProgress : List String)
    (id : String) :
    amount? catalog monthly inProgress id = (do
      note (.asked inProgress id)
      match ← fetch id with
      | some amount => return some amount
      | none =>
        note (.searched id)
        match catalog.component? id with
        | none => return none
        | some component =>
          if id ∈ inProgress then throw (.circularReference (cycle inProgress id))
          else
            note (.entered (id :: inProgress))
            let amount ← component.value monthly (amount? catalog monthly (id :: inProgress))
            store id amount
            return some amount) := by
  rw [amount?]
  congr 1
  funext _
  congr 1
  funext held
  cases held with
  | some amount => rfl
  | none =>
      simp only
      congr 1
      funext _
      split
      · next absent => rw [absent]
      · next component found =>
        rw [found]
        rfl

section Amount

variable {catalog : Catalog} {monthly : Decimal} {inProgress : List String} {id : String}
  {run : Run}

theorem runFrom_amount?_stored {amount : Decimal} (hit : run.amounts.get? id = some amount) :
    runFrom (amount? catalog monthly inProgress id) run =
      (.ok (some amount), run.noted (.asked inProgress id)) := by
  simp [amount?_eq, runFrom_bind, hit]

theorem runFrom_amount?_missing (miss : run.amounts.get? id = none)
    (absent : catalog.component? id = none) :
    runFrom (amount? catalog monthly inProgress id) run =
      (.ok none, (run.noted (.asked inProgress id)).noted (.searched id)) := by
  simp [amount?_eq, runFrom_bind, miss, absent, Except.map]

variable {entry : Component}

theorem runFrom_amount?_circular (miss : run.amounts.get? id = none)
    (found : catalog.component? id = some entry) (met : id ∈ inProgress) :
    runFrom (amount? catalog monthly inProgress id) run =
      (.error (.circularReference (cycle inProgress id)),
        (run.noted (.asked inProgress id)).noted (.searched id)) := by
  simp [amount?_eq, runFrom_bind, miss, found, met]

/-- Taking up a fresh component is evaluating and storing it. -/
theorem runFrom_amount?_entered (miss : run.amounts.get? id = none)
    (found : catalog.component? id = some entry) (fresh : id ∉ inProgress) :
    runFrom (amount? catalog monthly inProgress id) run =
      runFrom (do
        let amount ← entry.value monthly (amount? catalog monthly (id :: inProgress))
        store id amount
        return some amount) (run.entering inProgress id) := by
  rw [amount?_eq]
  simp only [runFrom_bind, runFrom_note, runFrom_fetch, Run.amounts_noted, miss, found, if_neg fresh]
  rfl

theorem runFrom_amount?_evaluated {amount : Decimal} {after : Run}
    (miss : run.amounts.get? id = none)
    (found : catalog.component? id = some entry) (fresh : id ∉ inProgress)
    (evaluated : runFrom (entry.value monthly (amount? catalog monthly (id :: inProgress)))
      (run.entering inProgress id) = (.ok amount, after)) :
    runFrom (amount? catalog monthly inProgress id) run =
      (.ok (some amount), after.holding id amount) := by
  rw [runFrom_amount?_entered miss found fresh, runFrom_bind, evaluated]
  rfl

theorem runFrom_amount?_failed {error : PayError} {after : Run}
    (miss : run.amounts.get? id = none)
    (found : catalog.component? id = some entry) (fresh : id ∉ inProgress)
    (failed : runFrom (entry.value monthly (amount? catalog monthly (id :: inProgress)))
      (run.entering inProgress id) = (.error error, after)) :
    runFrom (amount? catalog monthly inProgress id) run = (.error error, after) := by
  rw [runFrom_amount?_entered miss found fresh, runFrom_bind, failed]

end Amount

/-! ## Contracts -/

/-- From a run that is as `before` says, the computation ends as `after` says with a result, or as
`failed` says with an error. -/
def Meets (before : Run → Prop) (evaluation : Evaluation α) (after : α → Run → Prop)
    (failed : PayError → Run → Prop) : Prop :=
  ∀ run, before run →
    match runFrom evaluation run with
    | (.ok a, run) => after a run
    | (.error error, run) => failed error run

namespace Meets

variable {before : Run → Prop} {failed : PayError → Run → Prop}

theorem pure {after : α → Run → Prop} {a : α} (holds : ∀ run, before run → after a run) :
    Meets before (Pure.pure a) after failed := fun run start => holds run start

theorem ofExcept {outcome : Except PayError α} (fails : FailsInCalculation outcome)
    (faults : ∀ fault run, before run → failed (.calculation fault) run) :
    Meets before (MonadExcept.ofExcept outcome) (fun _ => before) failed := by
  intro run start
  rw [runFrom_ofExcept]
  cases outcome with
  | ok a => exact start
  | error error =>
      obtain ⟨fault, rfl⟩ := fails error rfl
      exact faults fault run start

/-- Steps in a row: the second starts where the first ends. -/
theorem bind {between : α → Run → Prop} {after : β → Run → Prop} {first : Evaluation α}
    {next : α → Evaluation β} (meets : Meets before first between failed)
    (onward : ∀ a, Meets (between a) (next a) after failed) :
    Meets before (first >>= next) after failed := by
  intro run start
  have reached := meets run start
  rw [runFrom_bind]
  rcases ended : runFrom first run with ⟨error | a, middle⟩
  · rw [ended] at reached
    exact reached
  · rw [ended] at reached
    exact onward a middle reached

theorem discard {after : α → Run → Prop} {rest : Run → Prop} {evaluation : Evaluation α}
    (meets : Meets before evaluation after failed) (holds : ∀ a run, after a run → rest run) :
    Meets before (Functor.discard evaluation) (fun _ => rest) failed := by
  intro run start
  have reached := meets run start
  rw [runFrom_discard]
  rcases ended : runFrom evaluation run with ⟨error | a, last⟩
  · rw [ended] at reached
    exact reached
  · rw [ended] at reached
    exact holds a last reached

theorem and {other : Run → Prop} {after beyond : α → Run → Prop} {fails : PayError → Run → Prop}
    {evaluation : Evaluation α} (first : Meets before evaluation after failed)
    (second : Meets other evaluation beyond fails) :
    Meets (fun run => before run ∧ other run) evaluation
      (fun a run => after a run ∧ beyond a run)
      (fun error run => failed error run ∧ fails error run) := by
  intro run start
  have here := first run start.1
  have there := second run start.2
  rcases ended : runFrom evaluation run with ⟨error | a, last⟩
  · rw [ended] at here there
    exact ⟨here, there⟩
  · rw [ended] at here there
    exact ⟨here, there⟩

theorem weaken {other : Run → Prop} {after beyond : α → Run → Prop}
    {fails : PayError → Run → Prop} {evaluation : Evaluation α}
    (meets : Meets before evaluation after failed) (start : ∀ run, other run → before run)
    (ends : ∀ a run, after a run → beyond a run)
    (errs : ∀ error run, failed error run → fails error run) :
    Meets other evaluation beyond fails := by
  intro run given
  have reached := meets run (start run given)
  rcases ended : runFrom evaluation run with ⟨error | a, last⟩
  · rw [ended] at reached
    exact errs error last reached
  · rw [ended] at reached
    exact ends a last reached

/-- Steps along a list: `holds done` is kept up while the items of `done` are behind and the rest is
still to come. -/
theorem forM {step : α → Evaluation PUnit} {items : List α} {holds : List α → Run → Prop}
    (each : ∀ done item rest, items = done ++ item :: rest →
      Meets (holds done) (step item) (fun _ => holds (done ++ [item])) failed) :
    Meets (holds []) (items.forM step) (fun _ => holds items) failed := by
  have onward : ∀ rest done, items = done ++ rest →
      Meets (holds done) (rest.forM step) (fun _ => holds items) failed := by
    intro rest
    induction rest with
    | nil =>
        intro done whole
        rw [whole, List.append_nil]
        exact Meets.pure fun _ kept => kept
    | cons item rest ih =>
        intro done whole
        exact (each done item rest whole).bind fun _ =>
          ih (done ++ [item]) (by rw [whole, List.append_assoc, List.singleton_append])
  exact onward items [] rfl

/-- Walking an inquiry: when every answer keeps `holds` and has the property `told`, the walk keeps
`holds`, and a walk that ends with a value has had all answers. -/
theorem answer {ids : List String} {inquiry : Inquiry α} (follows : inquiry.Follows ids)
    {give : String → Evaluation (Option Decimal)} {holds : Run → Prop}
    {told : String → Option Decimal → Prop}
    (gives : ∀ id ∈ ids,
      Meets holds (give id) (fun amount run => told id amount ∧ holds run) failed)
    (faults : ∀ fault run, holds run → failed (.calculation fault) run) :
    Meets holds (inquiry.answer give)
      (fun _ run => (∀ id ∈ ids, ∃ amount, told id amount) ∧ holds run) failed := by
  induction follows with
  | value a =>
      refine Meets.pure fun run kept => ⟨?_, kept⟩
      intro id listed
      cases listed
  | failure ids fault => exact fun run kept => faults fault run kept
  | question id ids _ ih =>
      apply (gives id List.mem_cons_self).bind
      intro amount run ⟨answered, kept⟩
      have reached := ih amount
        (fun other listed => gives other (List.mem_cons_of_mem id listed)) run kept
      rcases ended : runFrom (Inquiry.answer give _) run with ⟨error | a, last⟩
      · rw [ended] at reached
        exact reached
      · rw [ended] at reached
        refine ⟨fun other listed => ?_, reached.2⟩
        rcases List.mem_cons.mp listed with rfl | beyond
        · exact ⟨amount, answered⟩
        · exact reached.1 other beyond

theorem value (component : Component) (monthly : Decimal)
    {give : String → Evaluation (Option Decimal)} {holds : Run → Prop}
    {told : String → Option Decimal → Prop}
    (gives : ∀ id ∈ component.dependencies,
      Meets holds (give id) (fun amount run => told id amount ∧ holds run) failed)
    (faults : ∀ fault run, holds run → failed (.calculation fault) run) :
    Meets holds (component.value monthly give)
      (fun _ run => (∀ id ∈ component.dependencies, ∃ amount, told id amount) ∧ holds run)
      failed := by
  rw [← Inquiry.answer_component]
  exact Meets.answer (Inquiry.component_follows monthly component) gives faults

/-- When every answer brings something about that lasts, a walk that ends with a value has brought
all of it about. -/
theorem value_collects (component : Component) (monthly : Decimal)
    {give : String → Evaluation (Option Decimal)} {holds : Run → Prop}
    {told : String → Run → Prop}
    (gives : ∀ id ∈ component.dependencies,
      Meets holds (give id) (fun _ run => told id run ∧ holds run) failed)
    (lasts : ∀ id ∈ component.dependencies, ∀ other ∈ component.dependencies,
      Meets (told id) (give other) (fun _ => told id) (fun _ _ => True))
    (faults : ∀ fault run, holds run → failed (.calculation fault) run) :
    Meets holds (component.value monthly give)
      (fun _ run => (∀ id ∈ component.dependencies, told id run) ∧ holds run) failed := by
  rw [← Inquiry.answer_component]
  have follows := Inquiry.component_follows monthly component
  generalize component.value monthly Inquiry.ask = inquiry at follows ⊢
  generalize component.dependencies = ids at gives lasts follows ⊢
  induction follows with
  | value a => exact .pure fun run kept => ⟨List.forall_mem_nil _, kept⟩
  | failure ids fault => exact fun run kept => faults fault run kept
  | question id ids later ih =>
      apply (gives id List.mem_cons_self).bind
      intro amount
      have beyond := ih amount
        (fun other listed => gives other (List.mem_cons_of_mem id listed))
        (fun first listed other listed' =>
          lasts first (List.mem_cons_of_mem id listed) other (List.mem_cons_of_mem id listed'))
      -- what the first answer has brought about lasts through the rest of the walk
      have lasting : ∀ other ∈ ids, Meets (told id) (give other) (fun _ run => True ∧ told id run)
          (fun _ _ => True) := fun other listed =>
        (lasts id List.mem_cons_self other (List.mem_cons_of_mem id listed)).weaken
          (fun _ given => given) (fun _ _ told => ⟨trivial, told⟩) (fun _ _ _ => trivial)
      have kept := Meets.answer (later amount) lasting fun _ _ _ => trivial
      exact (kept.and beyond).weaken (fun _ given => given)
        (fun _ _ reached => ⟨List.forall_mem_cons.mpr ⟨reached.1.2, reached.2.1⟩, reached.2.2⟩)
        (fun _ _ failed => failed.2)

/-- The contract of asking for an amount, from what it does in each of its cases. -/
theorem amount? {catalog : Catalog} {monthly : Decimal} {inProgress : List String} {id : String}
    {after : Option Decimal → Run → Prop}
    (stored : ∀ run amount, before run → run.amounts.get? id = some amount →
      after (some amount) (run.noted (.asked inProgress id)))
    (missing : ∀ run, before run → run.amounts.get? id = none → catalog.component? id = none →
      after none ((run.noted (.asked inProgress id)).noted (.searched id)))
    (circular : ∀ run entry, before run → run.amounts.get? id = none →
      catalog.component? id = some entry → id ∈ inProgress →
      failed (.circularReference (cycle inProgress id))
        ((run.noted (.asked inProgress id)).noted (.searched id)))
    (evaluated : ∀ entry, catalog.component? id = some entry → id ∉ inProgress →
      Meets (fun run => ∃ start, before start ∧ start.amounts.get? id = none ∧
          run = start.entering inProgress id)
        (entry.value monthly (Evaluation.amount? catalog monthly (id :: inProgress)))
        (fun amount run => after (some amount) (run.holding id amount)) failed) :
    Meets before (Evaluation.amount? catalog monthly inProgress id) after failed := by
  intro run start
  cases held : run.amounts.get? id with
  | some amount =>
      rw [runFrom_amount?_stored held]
      exact stored run amount start held
  | none =>
      cases found : catalog.component? id with
      | none =>
          rw [runFrom_amount?_missing held found]
          exact missing run start held found
      | some entry =>
          by_cases met : id ∈ inProgress
          · rw [runFrom_amount?_circular held found met]
            exact circular run entry start held found met
          · have reached := evaluated entry found met (run.entering inProgress id)
              ⟨run, start, held, rfl⟩
            rcases ended : runFrom
              (entry.value monthly (Evaluation.amount? catalog monthly (id :: inProgress)))
              (run.entering inProgress id) with ⟨error | amount, last⟩
            · rw [ended] at reached
              rw [runFrom_amount?_failed held found met ended]
              exact reached
            · rw [ended] at reached
              rw [runFrom_amount?_evaluated held found met ended]
              exact reached

theorem component {catalog : Catalog} {monthly : Decimal} {entry : Component} {holds : Run → Prop}
    {after : Decimal → Run → Prop}
    (enters : ∀ run, before run → holds (run.noted (.entered [entry.id])))
    (meets : Meets holds
      (entry.value monthly (Evaluation.amount? catalog monthly [entry.id])) after failed) :
    Meets before (Evaluation.component catalog monthly entry) after failed := by
  intro run start
  have reached := meets _ (enters run start)
  simpa only [Evaluation.component, runFrom_bind, runFrom_note] using reached

theorem stored {catalog : Catalog} {monthly : Decimal} {entry : Component}
    {after : Decimal → Run → Prop}
    (hit : ∀ run amount, before run → run.amounts.get? entry.id = some amount → after amount run)
    (miss : Meets (fun run => before run ∧ run.amounts.get? entry.id = none)
      (Evaluation.component catalog monthly entry)
      (fun amount run => after amount (run.holding entry.id amount)) failed) :
    Meets before (Evaluation.stored catalog monthly entry) after failed := by
  intro run start
  rw [Evaluation.stored, runFrom_bind, runFrom_fetch]
  cases found : run.amounts.get? entry.id with
  | some amount => exact hit run amount start found
  | none =>
      have reached := miss run ⟨start, found⟩
      simp only [runFrom_bind]
      rcases ended : runFrom (Evaluation.component catalog monthly entry) run
        with ⟨error | amount, last⟩
      · rw [ended] at reached
        exact reached
      · rw [ended] at reached
        exact reached

end Meets

/-! ## Computing what is computed without a run -/

/-- The computation keeps `holds` and ends with the given outcome. -/
def Agrees (holds : Run → Prop) (evaluation : Evaluation α) (outcome : Except PayError α) : Prop :=
  ∀ run, holds run →
    (runFrom evaluation run).1 = outcome ∧ holds (runFrom evaluation run).2

namespace Agrees

variable {holds : Run → Prop}

theorem meets {evaluation : Evaluation α} {outcome : Except PayError α}
    (agrees : Agrees holds evaluation outcome) :
    Meets holds evaluation (fun a run => outcome = .ok a ∧ holds run)
      (fun error run => outcome = .error error ∧ holds run) := by
  intro run start
  obtain ⟨same, kept⟩ := agrees run start
  rcases ended : runFrom evaluation run with ⟨error | a, last⟩
  · rw [ended] at same kept
    exact ⟨same.symm, kept⟩
  · rw [ended] at same kept
    exact ⟨same.symm, kept⟩

theorem of_meets {evaluation : Evaluation α} {outcome : Except PayError α}
    (meets : Meets holds evaluation (fun a run => outcome = .ok a ∧ holds run)
      (fun error run => outcome = .error error ∧ holds run)) :
    Agrees holds evaluation outcome := by
  intro run start
  have reached := meets run start
  rcases ended : runFrom evaluation run with ⟨error | a, last⟩
  · rw [ended] at reached
    exact ⟨reached.1.symm, reached.2⟩
  · rw [ended] at reached
    exact ⟨reached.1.symm, reached.2⟩

theorem bind {first : Evaluation α} {next : α → Evaluation β} {outcome : Except PayError α}
    {plain : α → Except PayError β} (agrees : Agrees holds first outcome)
    (onward : ∀ a, outcome = .ok a → Agrees holds (next a) (plain a)) :
    Agrees holds (first >>= next) (outcome >>= plain) := by
  intro run start
  obtain ⟨same, kept⟩ := agrees run start
  rw [runFrom_bind]
  rcases ended : runFrom first run with ⟨error | a, middle⟩
  · rw [ended] at same kept
    subst same
    exact ⟨rfl, kept⟩
  · rw [ended] at same kept
    subst same
    exact onward a rfl middle kept

/-- Walking an inquiry under answers that agree. -/
theorem answer {ids : List String} {inquiry : Inquiry α} (follows : inquiry.Follows ids)
    {give : String → Evaluation (Option Decimal)}
    {plain : String → Except PayError (Option Decimal)}
    (gives : ∀ id ∈ ids, Agrees holds (give id) (plain id)) :
    Agrees holds (inquiry.answer give) (inquiry.answer plain) := by
  induction follows with
  | value a => exact fun run kept => ⟨rfl, kept⟩
  | failure ids fault => exact fun run kept => ⟨rfl, kept⟩
  | question id ids _ ih =>
      apply (gives id List.mem_cons_self).bind
      intro amount _
      exact ih amount fun other listed => gives other (List.mem_cons_of_mem id listed)

theorem value (component : Component) (monthly : Decimal)
    {give : String → Evaluation (Option Decimal)}
    {plain : String → Except PayError (Option Decimal)}
    (gives : ∀ id ∈ component.dependencies, Agrees holds (give id) (plain id)) :
    Agrees holds (component.value monthly give) (component.value monthly plain) := by
  rw [← Inquiry.answer_component give, ← Inquiry.answer_component plain]
  exact Agrees.answer (Inquiry.component_follows monthly component) gives

theorem operands (terms : List Term) (monthly : Decimal)
    {give : String → Evaluation (Option Decimal)}
    {plain : String → Except PayError (Option Decimal)}
    (gives : ∀ id ∈ terms.filterMap Term.componentId?, Agrees holds (give id) (plain id)) :
    Agrees holds (Formula.operands monthly give terms) (Formula.operands monthly plain terms) := by
  rw [← Inquiry.answer_operands give, ← Inquiry.answer_operands plain]
  exact Agrees.answer (Inquiry.operands_follows monthly terms) gives

theorem formula (terms : List Term) (monthly : Decimal)
    {give : String → Evaluation (Option Decimal)}
    {plain : String → Except PayError (Option Decimal)}
    (gives : ∀ id ∈ terms.filterMap Term.componentId?, Agrees holds (give id) (plain id)) :
    Agrees holds (Formula.value monthly give terms) (Formula.value monthly plain terms) := by
  rw [← Inquiry.answer_formula give, ← Inquiry.answer_formula plain]
  exact Agrees.answer (Inquiry.formula_follows monthly terms) gives

end Agrees

end Evaluation

end Payslip
