/-
# Following references wherever they lead

The same steps as those of a run, carried out with one list of ids in progress that is pushed and
popped in place. A component found in the catalog is taken up whatever it may lead to: nothing says
that this comes to an end, other than the depth to which components may be nested. A pursuit that
exceeds it has no outcome.
-/

import Payslip.Evaluation.Run

namespace Payslip

/-- The state of a pursuit: the run, and the ids in progress, latest first. -/
structure Pursuit.State where
  run : Run
  inProgress : List String
  deriving DecidableEq, Repr

/-- A computation that may exceed its depth. -/
abbrev Pursuit := ExceptT PayError (StateT Pursuit.State Option)

namespace Pursuit

/-- Exceeds the depth. -/
def tooDeep {α : Type} : Pursuit α := ExceptT.mk fun _ => none

/-- Adds an event to the trace. -/
def note (event : Event) : Pursuit Unit :=
  modify fun state => { state with run.trace := event :: state.run.trace }

/-- Notes down that an amount is asked for. -/
def noteAsked (id : String) : Pursuit Unit := do
  note (.asked (← get).inProgress id)

/-- The stored amount of a component. -/
def fetch (id : String) : Pursuit (Option Decimal) :=
  return (← get).run.amounts.get? id

/-- Stores the amount of a component. -/
def store (id : String) (amount : Decimal) : Pursuit Unit :=
  modify fun state => { state with run.amounts := state.run.amounts.insert id amount }

/-- Begins with a component, unless it is in progress. -/
def enter (id : String) : Pursuit Unit := do
  let inProgress := (← get).inProgress
  if id ∈ inProgress then throw (.circularReference (Evaluation.cycle inProgress id))
  else
    modify fun state => { state with inProgress := id :: inProgress }
    note (.entered (id :: inProgress))

/-- Is done with the latest component in progress. -/
def leave : Pursuit Unit :=
  modify fun state => { state with inProgress := state.inProgress.tail }

/-- The amount of the component with the given id: stored, or resolved and stored. There is none
when no component has the id. -/
def lookUp (catalog : Catalog) (resolve : Component → Pursuit Decimal) (id : String) :
    Pursuit (Option Decimal) := do
  noteAsked id
  match ← fetch id with
  | some amount => return some amount
  | none =>
    note (.searched id)
    match catalog.component? id with
    | none => return none
    | some component =>
      let amount ← resolve component
      store id amount
      return some amount

/-- The amount of a component, which need not be in the catalog, when so many components may be
nested. -/
def resolve (catalog : Catalog) (monthly : Decimal) : Nat → Component → Pursuit Decimal
  | 0, _ => tooDeep
  | depth + 1, component => do
    enter component.id
    let amount ← component.value monthly (lookUp catalog (resolve catalog monthly depth))
    leave
    return amount

/-- Carries a pursuit out from a given state. -/
def runFrom {α : Type} (pursuit : Pursuit α) (state : State) :
    Option (Except PayError α × State) :=
  (ExceptT.run pursuit).run state

end Pursuit

end Payslip
