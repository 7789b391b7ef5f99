/-
# What no evaluation can break

Following references only ever adds amounts to the store and events to the trace, and
it stops for two reasons only: a circular reference, or a calculation out of range.
This module says so once for all catalogs, so that later modules need not look at the
recursion again to know that what was stored stays stored.
-/

import Payslip.Proofs.Evaluation.Contract
import Payslip.Proofs.Evaluation.Dependency

namespace Payslip

/-- The errors of evaluating components. -/
def PayError.IsOfEvaluation (error : PayError) : Prop :=
  (∃ cycle, error = .circularReference cycle) ∨ ∃ fault, error = .calculation fault

namespace Evaluation

/-- A property of runs that more events and more amounts cannot break. -/
structure Lasting (holds : Run → Prop) : Prop where
  noted : ∀ run event, holds run → holds (run.noted event)
  holding : ∀ run id amount, holds run → holds (run.holding id amount)

theorem Lasting.trivial : Lasting fun _ => True where
  noted _ _ _ := .intro
  holding _ _ _ _ := .intro

/-- Having components in store lasts. -/
theorem Lasting.holds_all (components : List Component) :
    Lasting fun run => ∀ component ∈ components, run.amounts.get? component.id ≠ none where
  noted _ _ stored := stored
  holding run other amount stored := by
    intro component listed
    rw [Run.amounts_holding, Amounts.get?_insert]
    split
    · exact Option.some_ne_none amount
    · exact stored component listed

variable {holds : Run → Prop} (catalog : Catalog) (monthly : Decimal)

theorem value_preserves (entry : Component)
    {give : String → Evaluation (Option Decimal)}
    (gives : ∀ id, Meets holds (give id) (fun _ => holds)
      (fun error run => error.IsOfEvaluation ∧ holds run)) :
    Meets holds (entry.value monthly give) (fun _ => holds)
      (fun error run => error.IsOfEvaluation ∧ holds run) := by
  have told : ∀ id ∈ entry.dependencies,
      Meets holds (give id) (fun _ run => True ∧ holds run)
        (fun error run => error.IsOfEvaluation ∧ holds run) := fun id _ =>
    (gives id).weaken (fun _ given => given) (fun _ _ kept => ⟨trivial, kept⟩)
      (fun _ _ failed => failed)
  have walked := Meets.value entry monthly told fun fault _ kept => ⟨.inr ⟨fault, rfl⟩, kept⟩
  exact walked.weaken (fun _ given => given) (fun _ _ reached => reached.2)
    (fun _ _ failed => failed)

/-- Asking for an amount keeps what lasts, and fails as evaluations do. -/
theorem amount?_preserves (lasting : Lasting holds) (inProgress : List String) (id : String) :
    Meets holds (amount? catalog monthly inProgress id) (fun _ => holds)
      (fun error run => error.IsOfEvaluation ∧ holds run) := by
  have searched : ∀ run, holds run → ∀ inProgress id,
      holds ((run.noted (.asked inProgress id)).noted (.searched id)) := by
    intro run start inProgress id
    exact lasting.noted _ (.searched id) (lasting.noted run (.asked inProgress id) start)
  induction inProgress, id using catalog.followReferences with
  | _ inProgress id deeper =>
      refine .amount? ?stored ?missing ?circular ?evaluated
      case stored => exact fun run _ start _ => lasting.noted run _ start
      case missing => exact fun run start _ _ => searched run start inProgress id
      case circular =>
        exact fun run _ start _ _ _ => ⟨.inl ⟨_, rfl⟩, searched run start inProgress id⟩
      case evaluated =>
        intro entry found fresh
        refine (value_preserves monthly entry (deeper entry found fresh)).weaken ?_
          (fun amount run kept => lasting.holding run id amount kept) (fun _ _ failed => failed)
        rintro _ ⟨run, start, -, rfl⟩
        exact lasting.noted _ (.entered (id :: inProgress)) (searched run start inProgress id)

/-- A reference that exists is never answered with nothing, in any run and for any cost to
company. -/
theorem amount?_ne_none {catalog : Catalog} {inProgress : List String} {id : String}
    (present : catalog.component? id ≠ none) (monthly : Decimal) (run : Run) :
    (runFrom (amount? catalog monthly inProgress id) run).1 ≠ .ok none := by
  have answered : Meets (fun _ => True) (amount? catalog monthly inProgress id)
      (fun amount _ => amount ≠ none) (fun _ _ => True) := by
    refine .amount? ?stored ?missing ?circular ?evaluated
    case stored => exact fun _ amount _ _ => Option.some_ne_none amount
    case missing => exact fun _ _ _ absent => absurd absent present
    case circular => exact fun _ _ _ _ _ _ => trivial
    case evaluated =>
      intro entry _ _
      exact (value_preserves monthly entry (amount?_preserves catalog monthly .trivial _)).weaken
        (fun _ _ => trivial) (fun amount _ _ => Option.some_ne_none amount) fun _ _ _ => trivial
  have reached := answered run trivial
  intro nothing
  rcases ended : runFrom (amount? catalog monthly inProgress id) run with ⟨outcome, last⟩
  rw [ended] at reached nothing
  subst nothing
  exact reached rfl

/-- So does evaluating a component on its own, in the catalog or not. -/
theorem component_preserves (lasting : Lasting holds) (entry : Component) :
    Meets holds (component catalog monthly entry) (fun _ => holds)
      (fun error run => error.IsOfEvaluation ∧ holds run) := by
  refine .component (fun run start => lasting.noted run _ start) ?_
  exact value_preserves monthly entry (amount?_preserves catalog monthly lasting [entry.id])

/-- So does evaluating a component and storing it, which puts its amount into the store. -/
theorem stored_preserves (lasting : Lasting holds) (entry : Component) :
    Meets holds (stored catalog monthly entry)
      (fun amount run => run.amounts.get? entry.id = some amount ∧ holds run)
      (fun error run => error.IsOfEvaluation ∧ holds run) := by
  refine .stored (fun _ _ start hit => ⟨hit, start⟩) ?_
  refine (component_preserves catalog monthly lasting entry).weaken (fun _ given => given.1) ?_
    (fun _ _ failed => failed)
  intro amount run kept
  refine ⟨?_, lasting.holding run entry.id amount kept⟩
  rw [Run.amounts_holding, Amounts.get?_insert, if_pos rfl]

end Evaluation

end Payslip
