/-
# Every pursuit comes to an end

A pursuit takes up whatever it is led to, to the depth that it is allowed, so it is not plain to see
that any depth is enough. `lookUp_mirrors` says that one more than there are different ids waiting
is: the pursuit then does the same as asking for the amount in a run. The catalog may have cycles
and gaps, and several components with one id.

Whatever ends with an amount has put the ids in progress back to what they were. No id is ever among
them twice, and all but the first one are ids of the catalog, so there are never more of them than
the catalog has different ids, and one.
-/

import Mathlib.Data.Finset.Card
import Payslip.Evaluation.Pursuit
import Payslip.Proofs.Evaluation.Cycle
import Payslip.Proofs.Evaluation.Preservation

namespace Payslip

namespace Catalog

variable {catalog : Catalog} {inProgress : List String} {id : String}

theorem card_waiting_le (catalog : Catalog) (inProgress : List String) :
    (catalog.waiting inProgress).toFinset.card ≤ catalog.ids.toFinset.card := by
  refine Finset.card_le_card fun id listed => ?_
  exact List.mem_toFinset.mpr (List.mem_filter.mp (List.mem_toFinset.mp listed)).1

/-- Of the different ids that are waiting, one is taken up. -/
theorem card_waiting_cons_lt (listed : id ∈ catalog.ids) (fresh : id ∉ inProgress) :
    (catalog.waiting (id :: inProgress)).toFinset.card <
      (catalog.waiting inProgress).toFinset.card := by
  refine Finset.card_lt_card ((Finset.ssubset_iff_of_subset fun other waits => ?_).mpr
    ⟨id, by simp [waiting, listed, fresh], by simp [waiting]⟩)
  simp only [waiting, List.mem_toFinset, List.mem_filter, List.mem_cons, not_or,
    decide_eq_true_eq] at waits ⊢
  exact ⟨waits.1, waits.2.2⟩

end Catalog

/-- The ids that were in progress when the event happened. -/
def Event.inProgress? : Event → Option (List String)
  | .asked inProgress _ => some inProgress
  | .searched _ => none
  | .entered inProgress => some inProgress

namespace Pursuit

instance : LawfulFailure Pursuit := ⟨fun _ _ => rfl⟩

open Evaluation (amount? Meets)

variable {α β : Type}

/-! ## Single steps -/

section Steps

variable (run : Run) (inProgress : List String)

theorem runFrom_bind (first : Pursuit α) (next : α → Pursuit β) (state : State) :
    runFrom (first >>= next) state =
      (runFrom first state).bind fun
        | (.ok a, state) => runFrom (next a) state
        | (.error error, state) => some (.error error, state) := by
  simp only [runFrom, ExceptT.run_bind, StateT.run_bind]
  rcases (ExceptT.run first).run state with _ | ⟨_ | _, _⟩ <;> rfl

@[simp]
theorem runFrom_ofExcept (outcome : Except PayError α) (state : State) :
    runFrom (MonadExcept.ofExcept outcome : Pursuit α) state = some (outcome, state) := by
  cases outcome <;> rfl

@[simp]
theorem runFrom_get (state : State) : runFrom get state = some (.ok state, state) := rfl

theorem runFrom_enter (id : String) :
    runFrom (enter id) ⟨run, inProgress⟩ = some (
      if id ∈ inProgress then
        (.error (.circularReference (Evaluation.cycle inProgress id)), ⟨run, inProgress⟩)
      else
        (.ok (), ⟨run.noted (.entered (id :: inProgress)), id :: inProgress⟩)) := by
  rw [enter, runFrom_bind, runFrom_get, Option.bind_some]
  dsimp only
  split <;> rfl

end Steps

/-! ## The ids in progress -/

/-- No id is in progress twice, and all but the earliest one are ids of the catalog. -/
structure Orderly (catalog : Catalog) (inProgress : List String) : Prop where
  nodup : inProgress.Nodup
  listed : ∀ id ∈ inProgress.dropLast, id ∈ catalog.ids

variable {catalog : Catalog} {monthly : Decimal} {inProgress : List String}

namespace Orderly

theorem nil : Orderly catalog [] := ⟨List.nodup_nil, List.forall_mem_nil _⟩

/-- Anything can be the first to be in progress. -/
theorem singleton (id : String) : Orderly catalog [id] :=
  ⟨List.nodup_singleton id, List.forall_mem_nil _⟩

theorem cons {id : String} (orderly : Orderly catalog inProgress) (fresh : id ∉ inProgress)
    (listed : id ∈ catalog.ids) : Orderly catalog (id :: inProgress) where
  nodup := List.nodup_cons.mpr ⟨fresh, orderly.nodup⟩
  listed := by
    cases inProgress with
    | nil => exact List.forall_mem_nil _
    | cons latest rest => exact List.forall_mem_cons.mpr ⟨listed, orderly.listed⟩

/-- There are never more than the catalog has ids, and one. -/
theorem length_le (orderly : Orderly catalog inProgress) :
    inProgress.length ≤ catalog.ids.toFinset.card + 1 := by
  have nodup : inProgress.dropLast.Nodup := orderly.nodup.sublist (List.dropLast_sublist _)
  have within : inProgress.dropLast.toFinset ⊆ catalog.ids.toFinset := fun id listed =>
    List.mem_toFinset.mpr (orderly.listed id (List.mem_toFinset.mp listed))
  have fewer := Finset.card_le_card within
  rw [List.toFinset_card_of_nodup nodup, List.length_dropLast] at fewer
  omega

end Orderly

/-! ## Ending as a run does -/

variable {holds : List String → Prop}

/-- With these ids in progress the pursuit ends, from every run, as the evaluation does. If that is
with a result, the ids in progress are the same again; if not, they are what `holds` says. -/
def Mirrors (holds : List String → Prop) (inProgress : List String) (pursuit : Pursuit α)
    (evaluation : Evaluation α) : Prop :=
  ∀ run, ∃ left,
    pursuit.runFrom ⟨run, inProgress⟩ =
      some ((Evaluation.runFrom evaluation run).1, ⟨(Evaluation.runFrom evaluation run).2, left⟩) ∧
    (∀ a, (Evaluation.runFrom evaluation run).1 = .ok a → left = inProgress) ∧
    (holds inProgress → holds left)

namespace Mirrors

theorem pure (a : α) : Mirrors holds inProgress (Pure.pure a) (Pure.pure a) :=
  fun _ => ⟨inProgress, rfl, fun _ _ => rfl, id⟩

theorem ofExcept (outcome : Except PayError α) :
    Mirrors holds inProgress (MonadExcept.ofExcept outcome) (MonadExcept.ofExcept outcome) :=
  fun run => ⟨inProgress, by simp, fun _ _ => rfl, id⟩

theorem note (event : Event) :
    Mirrors holds inProgress (Pursuit.note event) (Evaluation.note event) :=
  fun _ => ⟨inProgress, rfl, fun _ _ => rfl, id⟩

theorem noteAsked (id : String) :
    Mirrors holds inProgress (Pursuit.noteAsked id) (Evaluation.note (.asked inProgress id)) :=
  fun _ => ⟨inProgress, rfl, fun _ _ => rfl, fun kept => kept⟩

theorem fetch (id : String) :
    Mirrors holds inProgress (Pursuit.fetch id) (Evaluation.fetch id) :=
  fun _ => ⟨inProgress, rfl, fun _ _ => rfl, fun kept => kept⟩

theorem store (id : String) (amount : Decimal) :
    Mirrors holds inProgress (Pursuit.store id amount) (Evaluation.store id amount) :=
  fun _ => ⟨inProgress, rfl, fun _ _ => rfl, fun kept => kept⟩

theorem bind {first : Pursuit α} {next : α → Pursuit β} {evaluation : Evaluation α}
    {onward : α → Evaluation β} (mirrors : Mirrors holds inProgress first evaluation)
    (later : ∀ a, Mirrors holds inProgress (next a) (onward a)) :
    Mirrors holds inProgress (first >>= next) (evaluation >>= onward) := by
  intro run
  obtain ⟨left, ends, restored, kept⟩ := mirrors run
  rw [runFrom_bind, Evaluation.runFrom_bind, ends]
  generalize Evaluation.runFrom evaluation run = reached at restored
  rcases reached with ⟨error | a, middle⟩
  · refine ⟨left, rfl, fun a reached => ?_, kept⟩
    cases reached
  · obtain rfl := restored a rfl
    exact later a middle

end Mirrors

/-- Walking an inquiry under answers that end as they do in a run. -/
theorem Mirrors.answer {give : String → Pursuit (Option Decimal)}
    {ask : String → Evaluation (Option Decimal)}
    (gives : ∀ id, Mirrors holds inProgress (give id) (ask id)) (inquiry : Inquiry α) :
    Mirrors holds inProgress (inquiry.answer give) (inquiry.answer ask) := by
  induction inquiry with
  | settled outcome => exact .ofExcept outcome
  | asking id next ih => exact (gives id).bind ih

theorem Mirrors.value (monthly : Decimal) {give : String → Pursuit (Option Decimal)}
    {ask : String → Evaluation (Option Decimal)}
    (gives : ∀ id, Mirrors holds inProgress (give id) (ask id)) (component : Component) :
    Mirrors holds inProgress (component.value monthly give) (component.value monthly ask) := by
  rw [← Inquiry.answer_component give, ← Inquiry.answer_component ask]
  exact .answer gives _

theorem Mirrors.formula (monthly : Decimal) {give : String → Pursuit (Option Decimal)}
    {ask : String → Evaluation (Option Decimal)}
    (gives : ∀ id, Mirrors holds inProgress (give id) (ask id)) (terms : List Term) :
    Mirrors holds inProgress (Formula.value monthly give terms)
      (Formula.value monthly ask terms) := by
  rw [← Inquiry.answer_formula give, ← Inquiry.answer_formula ask]
  exact .answer gives _

variable {depth : ℕ}

/-- What is in progress is not taken up again. -/
theorem resolve_mirrors_of_mem {component : Component} (met : component.id ∈ inProgress) :
    Mirrors holds inProgress (resolve catalog monthly (depth + 1) component)
      (throw (.circularReference (Evaluation.cycle inProgress component.id))) := by
  intro run
  refine ⟨inProgress, ?_, fun _ _ => rfl, id⟩
  rw [resolve, runFrom_bind, runFrom_enter, if_pos met]
  rfl

theorem resolve_mirrors {component : Component} (fresh : component.id ∉ inProgress)
    (begins : holds inProgress → holds (component.id :: inProgress))
    (asks : ∀ id, Mirrors holds (component.id :: inProgress)
      (lookUp catalog (resolve catalog monthly depth) id)
      (amount? catalog monthly (component.id :: inProgress) id)) :
    Mirrors holds inProgress (resolve catalog monthly (depth + 1) component) (do
      Evaluation.note (.entered (component.id :: inProgress))
      component.value monthly
        (amount? catalog monthly (component.id :: inProgress))) := by
  intro run
  obtain ⟨left, ends, restored, kept⟩ :=
    Mirrors.value monthly asks component (run.noted (.entered (component.id :: inProgress)))
  rw [resolve, runFrom_bind, runFrom_enter, if_neg fresh, Evaluation.runFrom_bind,
    Evaluation.runFrom_note, Option.bind_some]
  dsimp only
  rw [runFrom_bind, ends]
  generalize Evaluation.runFrom (component.value monthly _) _ = reached at restored
  rcases reached with ⟨error | amount, last⟩
  · refine ⟨left, rfl, fun a reached => ?_, kept ∘ begins⟩
    cases reached
  · obtain rfl := restored amount rfl
    exact ⟨inProgress, rfl, fun _ _ => rfl, id⟩

/-- Looking an amount up ends, and does what asking for it in a run does. -/
theorem lookUp_mirrors (monthly : Decimal)
    (grows : ∀ inProgress id, holds inProgress → id ∉ inProgress → id ∈ catalog.ids →
      holds (id :: inProgress))
    (deep : (catalog.waiting inProgress).toFinset.card < depth) (id : String) :
    Mirrors holds inProgress (lookUp catalog (resolve catalog monthly depth) id)
      (amount? catalog monthly inProgress id) := by
  induction depth generalizing inProgress id with
  | zero => cases deep
  | succ depth ih =>
      rw [lookUp, Evaluation.amount?_eq]
      refine (Mirrors.noteAsked id).bind fun _ => (Mirrors.fetch id).bind fun held => ?_
      cases held with
      | some amount => exact .pure (some amount)
      | none =>
          refine (Mirrors.note (.searched id)).bind fun _ => ?_
          cases found : catalog.component? id with
          | none => exact .pure none
          | some entry =>
              obtain rfl := Catalog.id_of_component? found
              by_cases met : entry.id ∈ inProgress
              · have broken : Mirrors holds inProgress
                    (resolve catalog monthly (depth + 1) entry) _ := resolve_mirrors_of_mem met
                have stored := broken.bind fun amount =>
                  (Mirrors.store entry.id amount).bind fun _ => .pure (some amount)
                rw [LawfulFailure.throw_bind] at stored
                simpa only [if_pos met] using stored
              · have listed := Catalog.mem_ids_of_component? found
                -- one id less is waiting, so one level less is enough
                have fewer := Catalog.card_waiting_cons_lt listed met
                have resolved := (resolve_mirrors met (grows inProgress entry.id · met listed)
                  (ih (by omega))).bind fun amount =>
                    (Mirrors.store entry.id amount).bind fun _ => .pure (some amount)
                rw [bind_assoc] at resolved
                simpa only [if_neg met] using resolved

/-! ## What a run records -/

/-- All that was in progress was orderly. -/
def Recorded (catalog : Catalog) (run : Run) : Prop :=
  ∀ event ∈ run.trace, ∀ inProgress ∈ event.inProgress?, Orderly catalog inProgress

theorem Recorded.noted {run : Run} {event : Event} (recorded : Recorded catalog run)
    (orderly : ∀ inProgress ∈ event.inProgress?, Orderly catalog inProgress) :
    Recorded catalog (run.noted event) :=
  List.forall_mem_cons.mpr ⟨orderly, recorded⟩

theorem Recorded.asked {run : Run} (recorded : Recorded catalog run)
    (orderly : Orderly catalog inProgress) (id : String) :
    Recorded catalog (run.noted (.asked inProgress id)) :=
  recorded.noted (by rintro _ ⟨⟩; exact orderly)

theorem Recorded.searched {run : Run} (recorded : Recorded catalog run) (id : String) :
    Recorded catalog (run.noted (.searched id)) :=
  recorded.noted (by rintro _ ⟨⟩)

theorem Recorded.entered {run : Run} (recorded : Recorded catalog run)
    (orderly : Orderly catalog inProgress) : Recorded catalog (run.noted (.entered inProgress)) :=
  recorded.noted (by rintro _ ⟨⟩; exact orderly)

/-- Walking an inquiry records no more than its answers do. -/
theorem answer_records {ids : List String} {inquiry : Inquiry α} (follows : inquiry.Follows ids)
    {give : String → Evaluation (Option Decimal)}
    (gives : ∀ id, Meets (Recorded catalog) (give id) (fun _ => Recorded catalog)
      (fun _ => Recorded catalog)) :
    Meets (Recorded catalog) (inquiry.answer give) (fun _ => Recorded catalog)
      (fun _ => Recorded catalog) := by
  have told : ∀ id ∈ ids, Meets (Recorded catalog) (give id)
      (fun _ run => True ∧ Recorded catalog run) (fun _ => Recorded catalog) := fun id _ =>
    (gives id).weaken (fun _ given => given) (fun _ _ kept => ⟨trivial, kept⟩)
      (fun _ _ kept => kept)
  exact (Meets.answer follows told fun _ _ kept => kept).weaken (fun _ given => given)
    (fun _ _ reached => reached.2) (fun _ _ kept => kept)

theorem amount?_records (monthly : Decimal) (inProgress : List String) (id : String)
    (orderly : Orderly catalog inProgress) :
    Meets (Recorded catalog) (amount? catalog monthly inProgress id) (fun _ => Recorded catalog)
      (fun _ => Recorded catalog) := by
  induction inProgress, id using catalog.followReferences with
  | step inProgress id deeper =>
      refine .amount? ?stored ?missing ?circular ?evaluated
      case stored => exact fun run _ recorded _ => recorded.asked orderly id
      case missing => exact fun run recorded _ _ => (recorded.asked orderly id).searched id
      case circular =>
        exact fun run _ recorded _ _ _ => (recorded.asked orderly id).searched id
      case evaluated =>
        intro entry found fresh
        have longer := orderly.cons fresh (Catalog.mem_ids_of_component? found)
        rw [← Inquiry.answer_component]
        refine (answer_records (Inquiry.component_follows monthly entry) fun dependency =>
          deeper entry found fresh dependency longer).weaken ?_ (fun _ _ kept => kept)
          (fun _ _ kept => kept)
        rintro _ ⟨run, recorded, -, rfl⟩
        exact ((recorded.asked orderly id).searched id).entered longer

/-! ## Every pursuit ends -/

/-- All that is in progress, and that was when something happened. -/
def State.history (state : State) : List (List String) :=
  state.inProgress :: state.run.trace.filterMap Event.inProgress?

theorem Recorded.forall_history {run : Run} (recorded : Recorded catalog run)
    (orderly : Orderly catalog inProgress) :
    ∀ earlier ∈ State.history ⟨run, inProgress⟩, Orderly catalog earlier := by
  refine List.forall_mem_cons.mpr ⟨orderly, fun earlier listed => ?_⟩
  obtain ⟨event, happened, shown⟩ := List.mem_filterMap.mp listed
  exact recorded event happened earlier shown

/-- The pursuit comes to an end. -/
structure Ends (catalog : Catalog) (pursuit : Pursuit α) : Prop where
  /-- From every state there is an outcome, and a result leaves in progress what was. -/
  restores : ∀ state, ∃ outcome last, pursuit.runFrom state = some (outcome, last) ∧
    ∀ a, outcome = .ok a → last.inProgress = state.inProgress
  /-- If nothing is in progress at first, then never an id twice and never more than there are in
  the catalog, and one. -/
  bounded : ∀ amounts, ∃ outcome last,
    pursuit.runFrom ⟨.start amounts, []⟩ = some (outcome, last) ∧
    ∀ inProgress ∈ last.history,
      inProgress.Nodup ∧ inProgress.length ≤ catalog.ids.toFinset.card + 1

theorem Ends.of_mirrors {pursuit : Pursuit α} {evaluation : Evaluation α}
    (anywhere : ∀ inProgress, ∃ evaluation, Mirrors (fun _ => True) inProgress pursuit evaluation)
    (outset : Mirrors (Orderly catalog) [] pursuit evaluation)
    (records : Meets (Recorded catalog) evaluation (fun _ => Recorded catalog)
      (fun _ => Recorded catalog)) : Ends catalog pursuit where
  restores := by
    rintro ⟨run, inProgress⟩
    obtain ⟨evaluation, mirrors⟩ := anywhere inProgress
    obtain ⟨left, ends, restored, -⟩ := mirrors run
    exact ⟨_, _, ends, restored⟩
  bounded := by
    intro amounts
    obtain ⟨left, ends, -, kept⟩ := outset (.start amounts)
    refine ⟨_, _, ends, fun inProgress listed => ?_⟩
    have recorded : Recorded catalog (Evaluation.runFrom evaluation (.start amounts)).2 := by
      have reached := records (.start amounts) (List.forall_mem_nil _)
      rcases ended : Evaluation.runFrom evaluation (.start amounts) with ⟨error | a, last⟩
      · rw [ended] at reached
        exact reached
      · rw [ended] at reached
        exact reached
    have orderly := recorded.forall_history (kept .nil) inProgress listed
    exact ⟨orderly.nodup, orderly.length_le⟩

section Catalog

variable (catalog : Catalog) (monthly : Decimal)

theorem lookUp_mirrors_anywhere {depth : ℕ} (deep : catalog.ids.toFinset.card < depth)
    (inProgress : List String) (id : String) :
    Mirrors (fun _ => True) inProgress (lookUp catalog (resolve catalog monthly depth) id)
      (amount? catalog monthly inProgress id) :=
  lookUp_mirrors monthly (fun _ _ _ _ _ => trivial)
    ((catalog.card_waiting_le inProgress).trans_lt deep) id

theorem lookUp_mirrors_orderly {depth : ℕ} (deep : catalog.ids.toFinset.card < depth)
    (inProgress : List String) (id : String) :
    Mirrors (Orderly catalog) inProgress (lookUp catalog (resolve catalog monthly depth) id)
      (amount? catalog monthly inProgress id) :=
  lookUp_mirrors monthly (fun _ _ orderly fresh listed => orderly.cons fresh listed)
    ((catalog.card_waiting_le inProgress).trans_lt deep) id

theorem resolve_mirrors_component {depth : ℕ} (deep : catalog.ids.toFinset.card < depth)
    (component : Component) :
    Mirrors (Orderly catalog) [] (resolve catalog monthly (depth + 1) component)
      (Evaluation.component catalog monthly component) :=
  resolve_mirrors List.not_mem_nil (fun _ => .singleton component.id)
    (lookUp_mirrors_orderly catalog monthly deep [component.id])

theorem ends_resolve {depth : ℕ} (deep : catalog.ids.toFinset.card < depth)
    (component : Component) :
    Ends catalog (resolve catalog monthly (depth + 1) component) := by
  refine .of_mirrors (fun inProgress => ?_)
    (resolve_mirrors_component catalog monthly deep component) ?_
  · by_cases met : component.id ∈ inProgress
    · exact ⟨_, resolve_mirrors_of_mem met⟩
    · exact ⟨_, resolve_mirrors met id (lookUp_mirrors_anywhere catalog monthly deep _)⟩
  · refine .component (fun run recorded => recorded.entered (.singleton component.id)) ?_
    rw [← Inquiry.answer_component]
    exact answer_records (Inquiry.component_follows monthly component) fun dependency =>
      amount?_records monthly [component.id] dependency (.singleton component.id)

theorem ends_value {depth : ℕ} (deep : catalog.ids.toFinset.card < depth) (component : Component) :
    Ends catalog (component.value monthly (lookUp catalog (resolve catalog monthly depth))) := by
  refine .of_mirrors
    (fun inProgress =>
      ⟨_, .value monthly (lookUp_mirrors_anywhere catalog monthly deep _) component⟩)
    (.value monthly (lookUp_mirrors_orderly catalog monthly deep []) component) ?_
  rw [← Inquiry.answer_component]
  exact answer_records (Inquiry.component_follows monthly component) fun dependency =>
    amount?_records monthly [] dependency .nil

theorem ends_formula {depth : ℕ} (deep : catalog.ids.toFinset.card < depth) (terms : List Term) :
    Ends catalog
      (Formula.value monthly (lookUp catalog (resolve catalog monthly depth)) terms) := by
  refine .of_mirrors
    (fun inProgress => ⟨_, .formula monthly (lookUp_mirrors_anywhere catalog monthly deep _) terms⟩)
    (.formula monthly (lookUp_mirrors_orderly catalog monthly deep []) terms) ?_
  rw [← Inquiry.answer_formula]
  exact answer_records (Inquiry.formula_follows monthly terms) fun dependency =>
    amount?_records monthly [] dependency .nil

theorem ends_lookUp {depth : ℕ} (deep : catalog.ids.toFinset.card < depth) (id : String) :
    Ends catalog (lookUp catalog (resolve catalog monthly depth) id) :=
  .of_mirrors (fun inProgress => ⟨_, lookUp_mirrors_anywhere catalog monthly deep inProgress id⟩)
    (lookUp_mirrors_orderly catalog monthly deep [] id) (amount?_records monthly [] id .nil)

end Catalog

/-- The outcome of a pursuit with nothing in progress, and the run that it leaves. -/
def outcomeFrom (pursuit : Pursuit α) (run : Run) : Option (Except PayError α × Run) :=
  (pursuit.runFrom ⟨run, []⟩).map fun reached => (reached.1, reached.2.run)

theorem Mirrors.outcomeFrom_eq {pursuit : Pursuit α} {evaluation : Evaluation α}
    (mirrors : Mirrors holds [] pursuit evaluation) (run : Run) :
    pursuit.outcomeFrom run = some (Evaluation.runFrom evaluation run) := by
  obtain ⟨left, ends, -⟩ := mirrors run
  rw [outcomeFrom, ends]
  rfl

/-- Over every catalog, with every cost to company and whatever is in store, every pursuit ends
that may go one level deeper than the catalog has different ids. On the way no id is in progress
twice, and never more than these, and one; a result leaves in progress what was. With nothing in
progress at first, a component and a formula come out as in a run, with all that happens on the
way. -/
theorem every_pursuit_ends (catalog : Catalog) (monthly : Decimal) {depth : ℕ}
    (deep : catalog.ids.toFinset.card < depth) :
    (∀ component, Ends catalog (resolve catalog monthly (depth + 1) component)) ∧
    (∀ id, Ends catalog (lookUp catalog (resolve catalog monthly depth) id)) ∧
    (∀ component : Component,
      Ends catalog (component.value monthly (lookUp catalog (resolve catalog monthly depth)))) ∧
    (∀ terms,
      Ends catalog (Formula.value monthly (lookUp catalog (resolve catalog monthly depth)) terms)) ∧
    (∀ component run, (resolve catalog monthly (depth + 1) component).outcomeFrom run =
      some (Evaluation.runFrom (Evaluation.component catalog monthly component) run)) ∧
    ∀ terms run,
      outcomeFrom
          (Formula.value monthly (lookUp catalog (resolve catalog monthly depth)) terms) run =
        some (Evaluation.runFrom (Evaluation.formula catalog monthly terms) run) := by
  refine ⟨ends_resolve catalog monthly deep, ends_lookUp catalog monthly deep,
    ends_value catalog monthly deep, ends_formula catalog monthly deep, ?_, ?_⟩
  · exact fun component => (resolve_mirrors_component catalog monthly deep component).outcomeFrom_eq
  · intro terms
    have asks := lookUp_mirrors_orderly catalog monthly deep []
    exact (Mirrors.formula monthly asks terms).outcomeFrom_eq

/-- A component that is in no catalog and refers to a cycle. -/
def gift : Component := .percentage "gift" "Gift" .earning (.ofWord 10) (.component "grade")

theorem every_pursuit_ends_knottedCatalog :
    Evaluation.knottedCatalog.ids.toFinset.card < 7 ∧
    Evaluation.knottedCatalog.component? gift.id = none ∧
    Ends Evaluation.knottedCatalog (resolve Evaluation.knottedCatalog 0 8 gift) ∧
    ((resolve Evaluation.knottedCatalog 0 8 gift).outcomeFrom (.start ∅)).map (·.1) =
      some (.error (.circularReference ["grade", "perk", "grade"])) := by
  have deep : Evaluation.knottedCatalog.ids.toFinset.card < 7 := by decide
  obtain ⟨ends, -⟩ := every_pursuit_ends Evaluation.knottedCatalog 0 deep
  exact ⟨deep, by decide, ends gift, by decide +kernel⟩

-- Neither bound is too large: a component from outside leads to the only one there is and that one
-- back to itself. One level less is not enough.
example :
    ((resolve [.percentage "perk" "Perk" .earning (.ofWord 5) (.component "perk")] 0 2
      (.percentage "tip" "Tip" .earning (.ofWord 1) (.component "perk"))).runFrom
        ⟨.start ∅, []⟩).isNone = true ∧
    ((resolve [.percentage "perk" "Perk" .earning (.ofWord 5) (.component "perk")] 0 3
      (.percentage "tip" "Tip" .earning (.ofWord 1) (.component "perk"))).runFrom
        ⟨.start ∅, []⟩).map (·.2.inProgress) = some ["perk", "tip"] := by
  decide +kernel

end Pursuit

end Payslip
