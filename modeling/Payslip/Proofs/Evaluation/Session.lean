/-
# The store computes nothing of its own

Everything that is evaluated in one session shares one store, and a step that fails
leaves it partly filled. The central fact of this module is that this never shows:
`session_eq_plain` says that every step of every session has the outcome of plain
evaluation, which knows the amounts the session began with and stores nothing.

The invariant is `Amounts.Completes`. An amount is stored when a component has been
evaluated with certain others in progress and used when others are; the two agree
because what has an amount settles, and what settles does not depend on what led to
it. The catalog may be cyclic, may lack components and may repeat ids.
-/

import Payslip.Proofs.Evaluation.Contract
import Payslip.Proofs.Evaluation.Dependency

namespace Payslip

namespace Amounts

/-- The amounts hold what was known beforehand, and apart from it only what plain evaluation
gives. -/
structure Completes (amounts : Amounts) (catalog : Catalog) (monthly : Decimal)
    (known : Amounts) : Prop where
  /-- Nothing that was known beforehand is lost or changed. -/
  kept : ∀ id amount, known.get? id = some amount → amounts.get? id = some amount
  /-- Whatever came to it is the value of a component of the catalog. -/
  added : ∀ id amount, known.get? id = none → amounts.get? id = some amount →
    ∃ entry, catalog.component? id = some entry ∧
      Plain.component catalog monthly known entry = .ok amount

namespace Completes

variable {catalog : Catalog} {monthly : Decimal} {known amounts : Amounts}
  {inProgress : List String} {id : String} {amount : Decimal}

theorem refl (catalog : Catalog) (monthly : Decimal) (known : Amounts) :
    known.Completes catalog monthly known where
  kept _ _ stored := stored
  added id amount unknown stored := by
    rw [unknown] at stored
    cases stored

theorem get?_eq_none (completes : amounts.Completes catalog monthly known)
    (miss : amounts.get? id = none) : known.get? id = none := by
  cases cut : known.get? id with
  | none => rfl
  | some amount =>
      rw [completes.kept id amount cut] at miss
      cases miss

/-- A stored amount is the one plain evaluation gives at the outset. -/
theorem amount?_nil (completes : amounts.Completes catalog monthly known)
    (stored : amounts.get? id = some amount) :
    Plain.amount? catalog monthly known [] id = .ok (some amount) := by
  cases unknown : known.get? id with
  | some other =>
      have same := (completes.kept id other unknown).symm.trans stored
      cases same
      exact Plain.amount?_of_known unknown
  | none =>
      obtain ⟨entry, found, evaluated⟩ := completes.added id amount unknown stored
      have named := Catalog.id_of_component? found
      subst named
      rw [Plain.amount?_nil_of_component? unknown found, evaluated]
      rfl

/-- So it is the one plain evaluation gives wherever the store is asked for it. -/
theorem amount?_eq (completes : amounts.Completes catalog monthly known)
    (lead : catalog.LeadTo known inProgress id) (stored : amounts.get? id = some amount) :
    Plain.amount? catalog monthly known inProgress id = .ok (some amount) := by
  have outset := completes.amount?_nil stored
  have settles := Plain.settles_of_amount?_eq_ok outset
  rw [Plain.amount?_eq_of_settles settles lead .nil, outset]

/-- An amount found with others in progress may be stored. -/
theorem insert (completes : amounts.Completes catalog monthly known)
    (unknown : known.get? id = none) (lead : catalog.LeadTo known inProgress id)
    {entry : Component} (found : catalog.component? id = some entry)
    (reached : Plain.amount? catalog monthly known inProgress id = .ok (some amount)) :
    (amounts.insert id amount).Completes catalog monthly known where
  kept other value cut := by
    have different : other ≠ id := by
      rintro rfl
      rw [unknown] at cut
      cases cut
    rw [get?_insert, if_neg different]
    exact completes.kept other value cut
  added other value fresh stored := by
    rw [get?_insert] at stored
    by_cases same : other = id
    · rw [if_pos same] at stored
      cases stored
      subst same
      have settles := Plain.settles_of_amount?_eq_ok reached
      rw [Plain.amount?_eq_of_settles settles lead .nil] at reached
      have named := Catalog.id_of_component? found
      subst named
      rw [Plain.amount?_nil_of_component? unknown found] at reached
      obtain ⟨value, evaluated, same⟩ := Outcome.map_eq_ok_iff.mp reached
      cases same
      exact ⟨entry, found, evaluated⟩
    · rw [if_neg same] at stored
      exact completes.added other value fresh stored

end Completes

end Amounts

namespace Evaluation

/-- The runs whose store holds nothing but what plain evaluation gives. -/
def Faithful (catalog : Catalog) (monthly : Decimal) (known : Amounts) (run : Run) : Prop :=
  run.amounts.Completes catalog monthly known

variable {catalog : Catalog} {monthly : Decimal} {known : Amounts}

/-- One level of `amount?`: it agrees with plain evaluation if it does so for what the component
asks for. -/
theorem amount?_agrees_of_deeper {inProgress : List String} {id : String}
    (lead : catalog.LeadTo known inProgress id)
    (deeper : ∀ entry, known.get? id = none → catalog.component? id = some entry →
      id ∉ inProgress → ∀ dependency ∈ entry.dependencies,
        Agrees (Faithful catalog monthly known)
          (amount? catalog monthly (id :: inProgress) dependency)
          (Plain.amount? catalog monthly known (id :: inProgress) dependency)) :
    Agrees (Faithful catalog monthly known) (amount? catalog monthly inProgress id)
      (Plain.amount? catalog monthly known inProgress id) := by
  apply Agrees.of_meets
  refine .amount? ?stored ?missing ?circular ?evaluated
  case stored =>
    intro run amount faithful stored
    exact ⟨faithful.amount?_eq lead stored, faithful⟩
  case missing =>
    intro run faithful miss absent
    exact ⟨Plain.amount?_of_missing (faithful.get?_eq_none miss) absent, faithful⟩
  case circular =>
    intro run entry faithful miss found met
    exact ⟨Plain.amount?_of_mem (faithful.get?_eq_none miss) found met, faithful⟩
  case evaluated =>
    rintro entry found fresh _ ⟨start, faithful, miss, rfl⟩
    have unknown := faithful.get?_eq_none miss
    have plain : Plain.amount? catalog monthly known inProgress id = _ :=
      Plain.amount?_of_not_mem unknown found fresh
    have value := (Agrees.value entry monthly (deeper entry unknown found fresh)).meets
    refine value.weaken (fun _ given => given) ?result ?failure (start.entering inProgress id)
      faithful
    case result =>
      intro amount run ⟨evaluated, faithful⟩
      rw [evaluated] at plain
      -- the amount is stored although others are in progress: this is where the invariant needs
      -- that what has an amount settles
      exact ⟨plain, faithful.insert unknown lead found plain⟩
    case failure =>
      intro error run ⟨failed, faithful⟩
      rw [failed] at plain
      exact ⟨plain, faithful⟩

/-- An amount that is asked for within a run is the one of plain evaluation, errors included, and
the run stays faithful. -/
theorem amount?_agrees {inProgress : List String} {id : String}
    (lead : catalog.LeadTo known inProgress id) :
    Agrees (Faithful catalog monthly known) (amount? catalog monthly inProgress id)
      (Plain.amount? catalog monthly known inProgress id) := by
  induction inProgress, id using catalog.followReferences with
  | _ inProgress id deeper =>
      refine amount?_agrees_of_deeper lead fun entry unknown found met dependency listed => ?_
      exact deeper entry found met dependency (lead.cons ⟨unknown, entry, found, listed⟩)

/-- So is the value of a component of the catalog that is evaluated on its own. -/
theorem component_agrees {entry : Component} (found : catalog.component? entry.id = some entry) :
    Agrees (Faithful catalog monthly known) (component catalog monthly entry)
      (Plain.component catalog monthly known entry) := by
  intro run faithful
  have asks : ∀ dependency ∈ entry.dependencies,
      Agrees (Faithful catalog monthly known) (amount? catalog monthly [entry.id] dependency)
        (Plain.amount? catalog monthly known [entry.id] dependency) :=
    fun dependency listed => amount?_agrees (.of_component? found listed)
  have value := Agrees.value entry monthly asks (run.noted (.entered [entry.id])) faithful
  simpa only [component, runFrom_bind, runFrom_note, Plain.component] using value

/-- So are the operands of a formula that belongs to no component, and its value. -/
theorem operands_agrees (terms : List Term) :
    Agrees (Faithful catalog monthly known)
      (Formula.operands monthly (amount? catalog monthly []) terms)
      (Formula.operands monthly (Plain.amount? catalog monthly known []) terms) :=
  Agrees.operands terms monthly fun _ _ => amount?_agrees .nil

theorem formula_agrees (terms : List Term) :
    Agrees (Faithful catalog monthly known) (formula catalog monthly terms)
      (Plain.formula catalog monthly known terms) :=
  Agrees.formula terms monthly fun _ _ => amount?_agrees .nil

/-! ## Sessions -/

/-- What can be asked for in a session. -/
inductive Step
  /-- The value of the first component with the given id. -/
  | component (id : String)
  /-- The value of a formula. -/
  | formula (terms : List Term)
  deriving DecidableEq, Repr

namespace Step

/-- Carries out a step. No component with the id means no value. -/
def perform (catalog : Catalog) (ctc : Decimal) : Step → Evaluation (Option Decimal)
  | .component id =>
    match catalog.component? id with
    | none => pure none
    | some entry => some <$> Evaluation.component catalog (monthlyShare ctc) entry
  | .formula terms => some <$> Evaluation.formula catalog (monthlyShare ctc) terms

/-- The outcome of a step under plain evaluation with amounts known beforehand. -/
def plain (catalog : Catalog) (ctc : Decimal) (known : Amounts) :
    Step → Except PayError (Option Decimal)
  | .component id =>
    match catalog.component? id with
    | none => .ok none
    | some entry => (Plain.component catalog (monthlyShare ctc) known entry).map some
  | .formula terms => (Plain.formula catalog (monthlyShare ctc) known terms).map some

theorem perform_agrees (catalog : Catalog) (ctc : Decimal) (known : Amounts) (step : Step) :
    Agrees (Faithful catalog (monthlyShare ctc) known) (step.perform catalog ctc)
      (step.plain catalog ctc known) := by
  intro run faithful
  cases step with
  | component id =>
      cases found : catalog.component? id with
      | none =>
          simp only [perform, plain, found]
          exact ⟨rfl, faithful⟩
      | some entry =>
          have named := Catalog.id_of_component? found
          subst named
          obtain ⟨same, kept⟩ := component_agrees found run faithful
          simp only [perform, plain, found, runFrom_map]
          exact ⟨congrArg _ same, kept⟩
  | formula terms =>
      obtain ⟨same, kept⟩ := formula_agrees terms run faithful
      simp only [perform, plain, runFrom_map]
      exact ⟨congrArg _ same, kept⟩

end Step

/-- Carries out steps one after the other on one store. Each gives its outcome and what is in store
behind it, whether or not it failed. -/
def session (catalog : Catalog) (ctc : Decimal) :
    List Step → Amounts → List (Except PayError (Option Decimal) × Amounts)
  | [], _ => []
  | step :: rest, amounts =>
    let (outcome, run) := runFrom (step.perform catalog ctc) (.start amounts)
    (outcome, run.amounts) :: session catalog ctc rest run.amounts

/-- A session that is under way: its store completes what was known at its beginning. -/
theorem session_of_completes {catalog : Catalog} {ctc : Decimal} {known amounts : Amounts}
    (steps : List Step) (completes : amounts.Completes catalog (monthlyShare ctc) known) :
    (session catalog ctc steps amounts).map Prod.fst = steps.map (Step.plain catalog ctc known) ∧
      ∀ behind ∈ (session catalog ctc steps amounts).map Prod.snd,
        behind.Completes catalog (monthlyShare ctc) known := by
  induction steps generalizing amounts with
  | nil => exact ⟨rfl, fun _ listed => by cases listed⟩
  | cons step rest ih =>
      obtain ⟨same, kept⟩ := step.perform_agrees catalog ctc known (.start amounts) completes
      obtain ⟨outcomes, stores⟩ := ih kept
      constructor
      · simp only [session, List.map_cons, same, outcomes]
      · intro behind listed
        rcases List.mem_cons.mp listed with rfl | later
        · exact kept
        · exact stores behind later

/-- Every step of every session has the outcome of plain evaluation, which knows what was in store
at the beginning and stores nothing. After every step, a failing one included, the store holds what
it held at the beginning, and apart from it only values of components of the catalog. -/
theorem session_eq_plain (catalog : Catalog) (ctc : Decimal) (known : Amounts)
    (steps : List Step) :
    (session catalog ctc steps known).map Prod.fst = steps.map (Step.plain catalog ctc known) ∧
      ∀ behind ∈ (session catalog ctc steps known).map Prod.snd,
        behind.Completes catalog (monthlyShare ctc) known :=
  session_of_completes steps (.refl catalog (monthlyShare ctc) known)

end Evaluation

end Payslip
