/-
# What a component asks for itself

`Component.dependencies` lists what a component refers to without evaluating anything; checks of a
catalog rely on it. Evaluating asks for amounts as it goes along, and what it asks for hangs on the
category and on the kind of every term. This module says that the two agree: a component that has
an amount has asked for its dependencies, in their order and as often as they are listed, and one
that fails has come through a first part of the list.

Every question is noted with the ids that are in progress, and this tells the questions of a
component from those of the components that it leads to: the latter have more in progress. So the
questions of a component are those with exactly its own ids in progress (`Run.askedUnder`), and
taking up another component adds none to them.
-/

import Payslip.Proofs.Evaluation.Termination

namespace Payslip

/-! ## Questions in a trace -/

/-- The id that was asked for, if exactly these ids were in progress then. -/
def Event.askedUnder? (inProgress : List String) : Event → Option String
  | .asked earlier id => if earlier = inProgress then some id else none
  | .searched _ => none
  | .entered _ => none

/-- The ids that were asked for while exactly these ids were in progress, in their order. -/
def Run.askedUnder (run : Run) (inProgress : List String) : List String :=
  run.trace.reverse.filterMap (·.askedUnder? inProgress)

namespace Run

variable (run : Run) (inProgress : List String) (id : String)

theorem askedUnder_noted (event : Event) :
    (run.noted event).askedUnder inProgress =
      run.askedUnder inProgress ++ (event.askedUnder? inProgress).toList := by
  simp only [askedUnder, noted, List.reverse_cons, List.filterMap_append]
  cases asked : event.askedUnder? inProgress <;> simp [asked]

@[simp]
theorem askedUnder_asked :
    (run.noted (.asked inProgress id)).askedUnder inProgress =
      run.askedUnder inProgress ++ [id] := by
  simp [askedUnder_noted, Event.askedUnder?]

theorem askedUnder_asked_of_ne {other : List String} (different : other ≠ inProgress) :
    (run.noted (.asked other id)).askedUnder inProgress = run.askedUnder inProgress := by
  simp [askedUnder_noted, Event.askedUnder?, different]

@[simp]
theorem askedUnder_searched :
    (run.noted (.searched id)).askedUnder inProgress = run.askedUnder inProgress := by
  simp [askedUnder_noted, Event.askedUnder?]

@[simp]
theorem askedUnder_entered (entered : List String) :
    (run.noted (.entered entered)).askedUnder inProgress = run.askedUnder inProgress := by
  simp [askedUnder_noted, Event.askedUnder?]

theorem askedUnder_holding (amount : Decimal) :
    (run.holding id amount).askedUnder inProgress = run.askedUnder inProgress := rfl

end Run

namespace Evaluation

variable (catalog : Catalog) (monthly : Decimal)

/-! ## Questions of the components that are led to -/

/-- With more in progress, nothing is asked for under what was in progress before. -/
theorem amount?_asks_nothing (under asked inProgress : List String) (id : String)
    (deeper : under.length < inProgress.length) :
    Meets (fun run => run.askedUnder under = asked) (amount? catalog monthly inProgress id)
      (fun _ run => run.askedUnder under = asked)
      (fun error run => error.IsOfEvaluation ∧ run.askedUnder under = asked) := by
  induction inProgress, id using catalog.followReferences with
  | step inProgress id onward =>
      have different : inProgress ≠ under := by
        rintro rfl
        exact Nat.lt_irrefl _ deeper
      have noted : ∀ run : Run, run.askedUnder under = asked →
          (run.noted (.asked inProgress id)).askedUnder under = asked := fun run kept =>
        (run.askedUnder_asked_of_ne under id different).trans kept
      refine .amount? ?stored ?missing ?circular ?evaluated
      case stored => exact fun run _ kept _ => noted run kept
      case missing => exact fun run kept _ _ => (Run.askedUnder_searched ..).trans (noted run kept)
      case circular =>
        exact fun run _ kept _ _ _ =>
          ⟨.inl ⟨_, rfl⟩, (Run.askedUnder_searched ..).trans (noted run kept)⟩
      case evaluated =>
        intro entry found fresh
        have gives := fun dependency =>
          onward entry found fresh dependency (Nat.lt_succ_of_lt deeper)
        refine (value_preserves monthly entry gives).weaken ?_
          (fun _ _ kept => (Run.askedUnder_holding ..).trans kept) (fun _ _ failed => failed)
        rintro _ ⟨run, kept, -, rfl⟩
        simpa [Run.entering] using noted run kept

/-- Asking for an amount is one question, whatever comes of it. -/
theorem amount?_asks (asked inProgress : List String) (id : String) :
    Meets (fun run => run.askedUnder inProgress = asked) (amount? catalog monthly inProgress id)
      (fun _ run => run.askedUnder inProgress = asked ++ [id])
      (fun _ run => run.askedUnder inProgress = asked ++ [id]) := by
  have noted : ∀ run : Run, run.askedUnder inProgress = asked →
      (run.noted (.asked inProgress id)).askedUnder inProgress = asked ++ [id] := fun run start =>
    (run.askedUnder_asked inProgress id).trans (congrArg (· ++ [id]) start)
  refine .amount? ?stored ?missing ?circular ?evaluated
  case stored => exact fun run _ start _ => noted run start
  case missing => exact fun run start _ _ => (Run.askedUnder_searched ..).trans (noted run start)
  case circular =>
    exact fun run _ start _ _ _ => (Run.askedUnder_searched ..).trans (noted run start)
  case evaluated =>
    intro entry found fresh
    have gives := fun dependency =>
      amount?_asks_nothing catalog monthly inProgress (asked ++ [id]) (id :: inProgress)
        dependency (Nat.lt_succ_self _)
    refine (value_preserves monthly entry gives).weaken ?_
      (fun _ _ kept => (Run.askedUnder_holding ..).trans kept) (fun _ _ failed => failed.2)
    rintro _ ⟨run, start, -, rfl⟩
    simpa [Run.entering] using noted run start

/-! ## Questions of the component itself -/

/-- From one run to the other exactly these ids were asked for, as far as the outcome lets it come:
all of them if there is an amount, and in any case none out of order. -/
structure AsksFor (inProgress ids : List String) (outcome : Except PayError Decimal)
    (before after : Run) : Prop where
  all : ∀ amount, outcome = .ok amount →
    after.askedUnder inProgress = before.askedUnder inProgress ++ ids
  inOrder : ∃ asked, asked <+: ids ∧
    after.askedUnder inProgress = before.askedUnder inProgress ++ asked

/-- Walking an inquiry asks for what it follows, one question after the other. -/
theorem answer_asks {α : Type} {ids : List String} {inquiry : Inquiry α}
    (follows : inquiry.Follows ids) (inProgress asked : List String) :
    Meets (fun run => run.askedUnder inProgress = asked)
      (inquiry.answer (amount? catalog monthly inProgress))
      (fun _ run => run.askedUnder inProgress = asked ++ ids)
      (fun _ run => ∃ first, first <+: ids ∧ run.askedUnder inProgress = asked ++ first) := by
  induction follows generalizing asked with
  | value a => exact .pure fun run start => by simpa using start
  | failure ids fault =>
      exact fun run start => ⟨[], List.nil_prefix, by simpa using start⟩
  | question id ids _ ih =>
      refine ((amount?_asks catalog monthly asked inProgress id).weaken (fun _ given => given)
        (fun _ _ reached => reached) fun _ run failed => ⟨[id], by simp, failed⟩).bind
        fun amount => (ih amount (asked ++ [id])).weaken (fun _ given => given) ?_ ?_
      · intro _ run reached
        simpa using reached
      · rintro _ run ⟨first, start, failed⟩
        exact ⟨id :: first, by simpa using start, by simpa using failed⟩

theorem value_asks (entry : Component) (inProgress : List String) (run : Run) :
    AsksFor inProgress entry.dependencies
      (runFrom (entry.value monthly (amount? catalog monthly inProgress)) run).1 run
      (runFrom (entry.value monthly (amount? catalog monthly inProgress)) run).2 := by
  rw [← Inquiry.answer_component]
  have reached := answer_asks catalog monthly (Inquiry.component_follows monthly entry) inProgress
    (run.askedUnder inProgress) run rfl
  rcases ended : runFrom (Inquiry.answer (amount? catalog monthly inProgress) _) run
    with ⟨error | amount, last⟩
  · rw [ended] at reached
    exact ⟨fun amount same => (nomatch same), reached⟩
  · rw [ended] at reached
    exact ⟨fun _ _ => reached, _, List.prefix_rfl, reached⟩

/-- To begin with a component is no question. -/
theorem entered_asks (entry : Component) (inProgress : List String) (run : Run) :
    AsksFor (entry.id :: inProgress) entry.dependencies
      (runFrom (do
        note (.entered (entry.id :: inProgress))
        entry.value monthly (amount? catalog monthly (entry.id :: inProgress))) run).1 run
      (runFrom (do
        note (.entered (entry.id :: inProgress))
        entry.value monthly (amount? catalog monthly (entry.id :: inProgress))) run).2 := by
  have asks := value_asks catalog monthly entry (entry.id :: inProgress)
    (run.noted (.entered (entry.id :: inProgress)))
  rw [runFrom_bind, runFrom_note]
  exact ⟨by simpa using asks.all, by simpa using asks.inOrder⟩

end Evaluation

namespace Pursuit

open Evaluation (AsksFor)

variable {catalog : Catalog} {monthly : Decimal} {depth : ℕ}

theorem resolve_asks (deep : catalog.ids.toFinset.card < depth) (component : Component)
    (state : State) :
    ∃ outcome last, (resolve catalog monthly (depth + 1) component).runFrom state =
        some (outcome, last) ∧
      AsksFor (component.id :: state.inProgress) component.dependencies outcome state.run
        last.run := by
  obtain ⟨run, inProgress⟩ := state
  by_cases met : component.id ∈ inProgress
  · have broken : Mirrors (fun _ => True) inProgress
        (resolve catalog monthly (depth + 1) component) _ := resolve_mirrors_of_mem met
    obtain ⟨left, ends, -⟩ := broken run
    exact ⟨_, _, ends, fun amount same => (nomatch same), [], List.nil_prefix, by simp⟩
  · obtain ⟨left, ends, -⟩ := resolve_mirrors met id
      (lookUp_mirrors_anywhere catalog monthly deep _) run
    exact ⟨_, _, ends, Evaluation.entered_asks catalog monthly component inProgress run⟩

end Pursuit

namespace Evaluation

/-- Over every catalog, with every cost to company and whatever is in store, what a component asks
for itself are its dependencies: all of them, in their order and as often as they are listed, if it
has an amount, and a first part of the list if it fails. So it is on its own, and wherever it is
taken up, with whatever in progress. -/
theorem asksFor_dependencies (catalog : Catalog) (monthly : Decimal) (entry : Component) :
    (∀ run, AsksFor [entry.id] entry.dependencies
      (runFrom (component catalog monthly entry) run).1 run
      (runFrom (component catalog monthly entry) run).2) ∧
    ∀ depth, catalog.ids.toFinset.card < depth → ∀ state : Pursuit.State, ∃ outcome last,
      (Pursuit.resolve catalog monthly (depth + 1) entry).runFrom state = some (outcome, last) ∧
      AsksFor (entry.id :: state.inProgress) entry.dependencies outcome state.run last.run :=
  ⟨entered_asks catalog monthly entry [], fun _ deep => Pursuit.resolve_asks deep entry⟩

/-- A formula that refers to one component twice and to none that exists, and that has kept the base
of a percentage. -/
def bonus : Component :=
  { Component.formula "bonus" "Bonus" .earning
      [.value (.component "basic"), .operator .add, .percentage (.ofWord 10) (.component "hra"),
        .operator .add, .value .ctc, .operator .multiply, .value (.component "tip"),
        .operator .subtract, .value (.component "basic")] with
    basedOn := .component "grade" }

/-- Taken up on behalf of another component, with one amount in store. -/
def underway : Pursuit.State := ⟨.start ⟨[("basic", .ofWord 40000)]⟩, ["perk"]⟩

theorem asksFor_dependencies_bonus :
    knottedCatalog.ids.toFinset.card < 7 ∧
    ∃ outcome last,
      (Pursuit.resolve knottedCatalog (.ofWord 100000) 8 bonus).runFrom underway =
        some (outcome, last) ∧
      outcome.toOption.isSome ∧
      last.run.askedUnder ["bonus", "perk"] = ["basic", "hra", "tip", "basic"] := by
  have deep : knottedCatalog.ids.toFinset.card < 7 := by decide
  have valued : ((Pursuit.resolve knottedCatalog (.ofWord 100000) 8 bonus).runFrom underway).map
      (·.1.toOption.isSome) = some true := by decide +kernel
  obtain ⟨-, anywhere⟩ := asksFor_dependencies knottedCatalog (.ofWord 100000) bonus
  obtain ⟨outcome, last, ends, asks⟩ := anywhere 7 deep underway
  rw [ends] at valued
  cases outcome with
  | error error => cases valued
  | ok amount => exact ⟨deep, _, last, ends, rfl, asks.all amount rfl⟩

end Evaluation

end Payslip
