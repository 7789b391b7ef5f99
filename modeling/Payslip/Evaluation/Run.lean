/-
# Evaluation with a store of amounts

A run evaluates components one after the other and stores the amount of every component that
another one refers to, so that nothing is computed twice. Components whose evaluation has begun
are in progress; meeting one of them again is a circular reference. A run also keeps a trace of
what it did. An evaluation that fails leaves the amounts stored so far in place.
-/

import Payslip.Evaluation.Value

namespace Payslip

/-- Amounts by component id, each id once. -/
structure Amounts where
  entries : List (String × Decimal)
  deriving DecidableEq, Repr

namespace Amounts

/-- No amounts. -/
def empty : Amounts := ⟨[]⟩

instance : EmptyCollection Amounts := ⟨empty⟩
instance : Inhabited Amounts := ⟨empty⟩

/-- The amount stored for an id. -/
def get? (amounts : Amounts) (id : String) : Option Decimal := amounts.entries.lookup id

/-- Stores an amount, in place of an earlier one with the same id. -/
def insert (amounts : Amounts) (id : String) (amount : Decimal) : Amounts :=
  ⟨go amounts.entries⟩
where
  /-- Replaces the entry with the id, or adds one at the end. -/
  go : List (String × Decimal) → List (String × Decimal)
    | [] => [(id, amount)]
    | entry :: rest => if entry.1 = id then (id, amount) :: rest else entry :: go rest

end Amounts

/-- What happens during a run. The ids in progress are given with the latest one first. -/
inductive Event
  /-- An amount was asked for. -/
  | asked (inProgress : List String) (id : String)
  /-- An id was searched for in the catalog. -/
  | searched (id : String)
  /-- The evaluation of the latest id in progress began. -/
  | entered (inProgress : List String)
  deriving DecidableEq, Repr

/-- The state of a run: the amounts stored so far, and what happened, latest first. -/
structure Run where
  amounts : Amounts
  trace : List Event
  deriving DecidableEq, Repr

/-- A run with given amounts in store, at its beginning. -/
def Run.start (amounts : Amounts) : Run := ⟨amounts, []⟩

/-- A computation within a run. -/
abbrev Evaluation := ExceptT PayError (StateM Run)

namespace Evaluation

/-- Adds an event to the trace. -/
def note (event : Event) : Evaluation Unit :=
  modify fun run => { run with trace := event :: run.trace }

/-- The stored amount of a component. -/
def fetch (id : String) : Evaluation (Option Decimal) :=
  return (← get).amounts.get? id

/-- Stores the amount of a component. -/
def store (id : String) (amount : Decimal) : Evaluation Unit :=
  modify fun run => { run with amounts := run.amounts.insert id amount }

/-- The cycle that is closed by meeting an id in progress again: the ids entered since, oldest
first, with the id at both ends. -/
def cycle (inProgress : List String) (id : String) : List String :=
  id :: (inProgress.takeWhile (· ≠ id)).reverse ++ [id]

/-- The amount of the component with the given id: stored, or evaluated and stored. There is none
when no component has the id. Each step takes up an id of the catalog that was waiting, so the
references cannot be followed for ever. -/
def amount? (catalog : Catalog) (monthly : Decimal) (inProgress : List String) (id : String) :
    Evaluation (Option Decimal) := do
  note (.asked inProgress id)
  match ← fetch id with
  | some amount => return some amount
  | none =>
    note (.searched id)
    match _ : catalog.component? id with
    | none => return none
    | some component =>
      if _ : id ∈ inProgress then throw (.circularReference (cycle inProgress id))
      else
        note (.entered (id :: inProgress))
        let amount ← component.value monthly (amount? catalog monthly (id :: inProgress))
        store id amount
        return some amount
termination_by (catalog.waiting inProgress).length
decreasing_by exact Catalog.length_waiting_cons_lt (Catalog.mem_ids_of_component? ‹_›) ‹_›

/-- The amount of a component, which need not be in the catalog. Stores the amounts of the
components it refers to, but not its own. -/
def component (catalog : Catalog) (monthly : Decimal) (entry : Component) :
    Evaluation Decimal := do
  note (.entered [entry.id])
  entry.value monthly (amount? catalog monthly [entry.id])

/-- The amount of a component, stored or evaluated; stores it under the component's id. -/
def stored (catalog : Catalog) (monthly : Decimal) (entry : Component) : Evaluation Decimal := do
  match ← fetch entry.id with
  | some amount => return amount
  | none =>
    let amount ← component catalog monthly entry
    store entry.id amount
    return amount

/-- The value of a formula on its own, outside any component. -/
def formula (catalog : Catalog) (monthly : Decimal) (terms : List Term) : Evaluation Decimal :=
  Formula.value monthly (amount? catalog monthly []) terms

/-- Carries a computation out from a given state. -/
def runFrom {α : Type} (evaluation : Evaluation α) (run : Run) : Except PayError α × Run :=
  (ExceptT.run evaluation).run run

end Evaluation

/-- How often an id was searched for in the catalog, for every id that was, in the order of first
searches. -/
def Run.searches (run : Run) : List (String × Nat) :=
  let ids := run.trace.reverse.filterMap fun
    | .searched id => some id
    | _ => none
  ids.eraseDups.map fun id => (id, ids.count id)

end Payslip
