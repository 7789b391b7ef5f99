/-
# Nothing is evaluated twice

A run writes down what it does, so it can be counted how often a component was evaluated and how
often it was searched for in the catalog. Both counts follow from where the component stands: one
that is in progress or in store was entered once, any other never, and it was searched for at most
as often as it was entered. `Tally` is this bookkeeping; no step of an evaluation upsets it.

There is one exception. Meeting a component in progress again takes a second search, and with it
the run breaks off. So in any run only the component that closes a cycle is searched for twice.

The same bookkeeping says which components are evaluated: with a component, everything that it
refers to has come into store, and nothing else has.
-/

import Payslip.Proofs.Evaluation.Preservation
import Payslip.Proofs.Evaluation.Reach

namespace Payslip

theorem Catalog.exists_component?_of_mem_ids {catalog : Catalog} {id : String}
    (listed : id ∈ catalog.ids) : ∃ component, catalog.component? id = some component := by
  obtain ⟨component, member, rfl⟩ := List.mem_map.mp listed
  exact Option.isSome_iff_exists.mp (List.find?_isSome.mpr ⟨component, member, by simp⟩)

/-! ## Counting what happened -/

/-- The evaluation of the component with the id begins. -/
def Event.enters (id : String) : Event → Bool
  | .entered (latest :: _) => latest = id
  | _ => false

namespace Run

/-- How often the evaluation of the component with the id has begun. -/
def entries (run : Run) (id : String) : Nat := run.trace.countP (·.enters id)

/-- How often the id was searched for in the catalog. -/
def lookups (run : Run) (id : String) : Nat := run.trace.count (.searched id)

variable (run : Run) (inProgress : List String) (id other : String)

@[simp]
theorem entries_asked : (run.noted (.asked inProgress other)).entries id = run.entries id := by
  simp [entries, noted, Event.enters]

@[simp]
theorem entries_searched : (run.noted (.searched other)).entries id = run.entries id := by
  simp [entries, noted, Event.enters]

@[simp]
theorem entries_entered :
    (run.noted (.entered (other :: inProgress))).entries id =
      run.entries id + if other = id then 1 else 0 := by
  simp [entries, noted, Event.enters, List.countP_cons]

@[simp]
theorem entries_holding (amount : Decimal) :
    (run.holding other amount).entries id = run.entries id := rfl

@[simp]
theorem lookups_asked : (run.noted (.asked inProgress other)).lookups id = run.lookups id := by
  simp [lookups, noted]

@[simp]
theorem lookups_searched :
    (run.noted (.searched other)).lookups id = run.lookups id + if other = id then 1 else 0 := by
  simp [lookups, noted, List.count_cons]

@[simp]
theorem lookups_entered : (run.noted (.entered inProgress)).lookups id = run.lookups id := by
  simp [lookups, noted]

@[simp]
theorem lookups_holding (amount : Decimal) :
    (run.holding other amount).lookups id = run.lookups id := rfl

/-- The searches that a run reports are all that there were. -/
theorem mem_searches_iff {count : Nat} :
    (id, count) ∈ run.searches ↔ count = run.lookups id ∧ count ≠ 0 := by
  -- what `searches` picks out of the trace
  obtain ⟨pick, searches_eq, picks⟩ : ∃ pick : Event → Option String,
      (run.searches =
        let ids := run.trace.reverse.filterMap pick
        ids.eraseDups.map fun id => (id, ids.count id)) ∧
      ∀ event, pick event = some id ↔ event = .searched id :=
    ⟨_, rfl, fun event => by cases event <;> simp⟩
  have counted : (run.trace.reverse.filterMap pick).count id = run.lookups id := by
    rw [List.count_filterMap, List.countP_reverse, lookups, List.count]
    congr 1
    funext event
    rw [Bool.eq_iff_iff, beq_iff_eq, beq_iff_eq]
    exact picks event
  rw [searches_eq, List.mem_map]
  constructor
  · rintro ⟨found, listed, same⟩
    obtain ⟨rfl, rfl⟩ := Prod.mk.inj same
    refine ⟨counted, ?_⟩
    exact Nat.ne_of_gt (List.count_pos_iff.mpr (List.mem_eraseDups.mp listed))
  · rintro ⟨rfl, found⟩
    rw [← counted] at found ⊢
    exact ⟨id, List.mem_eraseDups.mpr (List.count_pos_iff.mp (Nat.pos_of_ne_zero found)), rfl⟩

end Run

namespace Evaluation

variable {catalog : Catalog} {wanted : String → Prop} {inProgress : List String} {id : String}
  {run : Run}

/-- The component with the id is in store, if there is one. -/
def Supplied (catalog : Catalog) (id : String) (run : Run) : Prop :=
  id ∈ catalog.ids → run.amounts.get? id ≠ none

theorem Lasting.supplied (catalog : Catalog) (id : String) : Lasting (Supplied catalog id) where
  noted _ _ supplied := supplied
  holding run other amount supplied := by
    intro listed
    rw [Run.amounts_holding, Amounts.get?_insert]
    split
    · exact Option.some_ne_none amount
    · exact supplied listed

/-! ## The bookkeeping -/

/-- What the counts of a run say while components are in progress: those and the ones in store were
entered once. -/
structure Tally (catalog : Catalog) (wanted : String → Prop) (inProgress : List String)
    (run : Run) : Prop where
  entries_eq : ∀ id, run.entries id =
    if id ∈ inProgress ∨ run.amounts.get? id ≠ none then 1 else 0
  unstored : ∀ id ∈ inProgress, run.amounts.get? id = none
  lookups_le : ∀ id ∈ catalog.ids, run.lookups id ≤ run.entries id
  /-- Only what is wanted comes into store, -/
  wanted : ∀ id, run.amounts.get? id ≠ none → wanted id
  /-- and with it what it refers to. -/
  closed : ∀ id dependency, run.amounts.get? id ≠ none → catalog.DependsOn id dependency →
    Supplied catalog dependency run

/-- The counts of a run that broke off: nothing was entered twice, and nothing in the catalog was
searched for twice other than what closes the cycle. -/
structure BrokenOff (catalog : Catalog) (error : PayError) (run : Run) : Prop where
  entries_le : ∀ id, run.entries id ≤ 1
  lookups_le : ∀ id ∈ catalog.ids, run.lookups id ≤ 1 ∨
    ∃ path, error = .circularReference path ∧ path.getLast? = some id ∧ run.lookups id ≤ 2

namespace Tally

theorem start : Tally catalog wanted [] (.start ∅) where
  entries_eq _ := rfl
  unstored _ listed := by cases listed
  lookups_le _ _ := Nat.le_refl 0
  wanted _ stored := absurd rfl stored
  closed _ _ stored := absurd rfl stored

theorem entries_le (tally : Tally catalog wanted inProgress run) (id : String) :
    run.entries id ≤ 1 := by
  rw [tally.entries_eq]
  split <;> omega

theorem asked (tally : Tally catalog wanted inProgress run) (id : String) :
    Tally catalog wanted inProgress (run.noted (.asked inProgress id)) where
  entries_eq other := (Run.entries_asked ..).trans (tally.entries_eq other)
  unstored := tally.unstored
  lookups_le other listed := by simpa using tally.lookups_le other listed
  wanted := tally.wanted
  closed := tally.closed

theorem missing (tally : Tally catalog wanted inProgress run)
    (absent : catalog.component? id = none) :
    Tally catalog wanted inProgress (run.noted (.searched id)) where
  entries_eq other := (Run.entries_searched ..).trans (tally.entries_eq other)
  unstored := tally.unstored
  lookups_le other listed := by
    have different : id ≠ other := by
      rintro rfl
      obtain ⟨component, found⟩ := Catalog.exists_component?_of_mem_ids listed
      rw [absent] at found
      cases found
    simpa [different] using tally.lookups_le other listed
  wanted := tally.wanted
  closed := tally.closed

/-- A component that nobody had entered is taken up. It may have been searched for. -/
theorem enter {after : Run} (tally : Tally catalog wanted inProgress run) (fresh : id ∉ inProgress)
    (miss : run.amounts.get? id = none) (amounts : after.amounts = run.amounts)
    (entries : ∀ other, after.entries other = run.entries other + if id = other then 1 else 0)
    (lookups : ∀ other, after.lookups other ≤ run.lookups other + if id = other then 1 else 0) :
    Tally catalog wanted (id :: inProgress) after where
  entries_eq other := by
    rw [entries, tally.entries_eq, amounts]
    by_cases same : id = other
    · subst same
      simp [fresh, miss]
    · simp [same, Ne.symm same]
  unstored := by
    rw [amounts]
    exact List.forall_mem_cons.mpr ⟨miss, tally.unstored⟩
  lookups_le other listed := by
    rw [entries]
    exact Nat.le_trans (lookups other) (Nat.add_le_add_right (tally.lookups_le other listed) _)
  wanted other stored := tally.wanted other (amounts ▸ stored)
  closed other dependency stored depends listed := by
    rw [amounts] at stored ⊢
    exact tally.closed other dependency stored depends listed

/-- The latest component in progress comes into store. -/
theorem leave (tally : Tally catalog wanted (id :: inProgress) run) (fresh : id ∉ inProgress)
    (wants : wanted id)
    (supplied : ∀ dependency, catalog.DependsOn id dependency → Supplied catalog dependency run)
    (amount : Decimal) : Tally catalog wanted inProgress (run.holding id amount) where
  entries_eq other := by
    rw [Run.entries_holding, tally.entries_eq, Run.amounts_holding, Amounts.get?_insert]
    by_cases same : other = id <;> simp [same]
  unstored other listed := by
    have different : other ≠ id := by
      rintro rfl
      exact fresh listed
    rw [Run.amounts_holding, Amounts.get?_insert, if_neg different]
    exact tally.unstored other (List.mem_cons_of_mem id listed)
  lookups_le other listed := by
    rw [Run.lookups_holding, Run.entries_holding]
    exact tally.lookups_le other listed
  wanted other stored := by
    rw [Run.amounts_holding, Amounts.get?_insert] at stored
    split at stored
    · next same => exact same ▸ wants
    · exact tally.wanted other stored
  closed other dependency stored depends := by
    apply (Lasting.supplied catalog dependency).holding
    rw [Run.amounts_holding, Amounts.get?_insert] at stored
    split at stored
    · next same => exact supplied dependency (same ▸ depends)
    · exact tally.closed other dependency stored depends

theorem brokenOff (tally : Tally catalog wanted inProgress run) (error : PayError) :
    BrokenOff catalog error run where
  entries_le := tally.entries_le
  lookups_le id listed :=
    .inl (Nat.le_trans (tally.lookups_le id listed) (tally.entries_le id))

/-- Meeting a component in progress takes a second search for it and no other. -/
theorem brokenOff_circular (tally : Tally catalog wanted inProgress run) (id : String) :
    BrokenOff catalog (.circularReference (cycle inProgress id))
      ((run.noted (.asked inProgress id)).noted (.searched id)) where
  entries_le other := by simpa using tally.entries_le other
  lookups_le other listed := by
    have before := Nat.le_trans (tally.lookups_le other listed) (tally.entries_le other)
    by_cases same : id = other
    · subst same
      exact .inr ⟨_, rfl, List.getLast?_concat .., by simpa using before⟩
    · exact .inl (by simpa [same] using before)

end Tally

/-! ## No step upsets it -/

variable {monthly : Decimal}

/-- What is wanted makes everything wanted that it refers to in the catalog. -/
def Closed (catalog : Catalog) (wanted : String → Prop) : Prop :=
  ∀ id dependency, wanted id → catalog.DependsOn id dependency → dependency ∈ catalog.ids →
    wanted dependency

theorem value_tallies {entry : Component}
    (found : catalog.component? entry.id = some entry)
    (gives : ∀ dependency ∈ entry.dependencies,
      Meets (Tally catalog wanted inProgress) (amount? catalog monthly inProgress dependency)
        (fun _ run => Supplied catalog dependency run ∧ Tally catalog wanted inProgress run)
        (BrokenOff catalog)) :
    Meets (Tally catalog wanted inProgress)
      (entry.value monthly (amount? catalog monthly inProgress))
      (fun _ run => (∀ dependency, catalog.DependsOn entry.id dependency →
        Supplied catalog dependency run) ∧ Tally catalog wanted inProgress run)
      (BrokenOff catalog) := by
  have lasts : ∀ id ∈ entry.dependencies, ∀ other ∈ entry.dependencies,
      Meets (Supplied catalog id) (amount? catalog monthly inProgress other)
        (fun _ => Supplied catalog id) (fun _ _ => True) := fun id _ other _ =>
    (amount?_preserves catalog monthly (.supplied catalog id) inProgress other).weaken
      (fun _ given => given) (fun _ _ kept => kept) (fun _ _ _ => trivial)
  refine (Meets.value_collects entry monthly gives lasts fun fault _ tally =>
    tally.brokenOff (.calculation fault)).weaken (fun _ given => given) ?_
    (fun _ _ failed => failed)
  intro _ run ⟨supplied, tally⟩
  refine ⟨fun dependency depends => ?_, tally⟩
  obtain ⟨component, same, needed⟩ := depends
  cases found.symm.trans same
  exact supplied dependency needed

/-- Asking for an amount that is wanted leaves the component in store, if there is one. -/
theorem amount?_tallies (closed : Closed catalog wanted) (inProgress : List String) (id : String)
    (wants : id ∈ catalog.ids → wanted id) :
    Meets (Tally catalog wanted inProgress) (amount? catalog monthly inProgress id)
      (fun _ run => Supplied catalog id run ∧ Tally catalog wanted inProgress run)
      (BrokenOff catalog) := by
  induction inProgress, id using catalog.followReferences with
  | step inProgress id deeper =>
      refine .amount? ?stored ?missing ?circular ?evaluated
      case stored =>
        intro run amount tally hit
        refine ⟨fun _ => ?_, tally.asked id⟩
        rw [Run.amounts_noted, hit]
        exact Option.some_ne_none amount
      case missing =>
        intro run tally _ absent
        refine ⟨fun listed => ?_, (tally.asked id).missing absent⟩
        obtain ⟨component, found⟩ := Catalog.exists_component?_of_mem_ids listed
        rw [absent] at found
        cases found
      case circular => exact fun run _ tally _ _ _ => tally.brokenOff_circular id
      case evaluated =>
        intro entry found fresh
        have named : entry.id = id := Catalog.id_of_component? found
        have wants := wants (Catalog.mem_ids_of_component? found)
        have gives : ∀ dependency ∈ entry.dependencies, _ := fun dependency needed =>
          deeper entry found fresh dependency
            (closed id dependency wants ⟨entry, found, needed⟩)
        refine (value_tallies (named ▸ found) gives).weaken ?_ ?_ (fun _ _ failed => failed)
        · rintro _ ⟨run, tally, miss, rfl⟩
          exact tally.enter fresh miss rfl (fun other => by simp [Run.entering])
            (fun other => by simp [Run.entering])
        · intro amount run ⟨supplied, tally⟩
          refine ⟨fun _ => ?_, tally.leave fresh wants (named ▸ supplied) amount⟩
          rw [Run.amounts_holding, Amounts.get?_insert, if_pos rfl]
          exact Option.some_ne_none amount

/-- So does evaluating and storing a component that is the first one with its id. -/
theorem stored_tallies (closed : Closed catalog wanted) {entry : Component}
    (found : catalog.component? entry.id = some entry) (wants : wanted entry.id) :
    Meets (Tally catalog wanted []) (stored catalog monthly entry)
      (fun _ => Tally catalog wanted []) (BrokenOff catalog) := by
  have gives : ∀ dependency ∈ entry.dependencies,
      Meets _ (amount? catalog monthly [entry.id] dependency) _ _ := fun dependency needed =>
    amount?_tallies closed [entry.id] dependency
      (closed entry.id dependency wants ⟨entry, found, needed⟩)
  refine .stored (fun _ _ tally _ => tally) ?_
  refine .component ?_ ((value_tallies found gives).weaken (fun _ given => given) ?_
    (fun _ _ failed => failed))
  · intro run ⟨tally, miss⟩
    exact tally.enter List.not_mem_nil miss rfl (fun other => by simp) (fun other => by simp)
  · intro amount run ⟨supplied, tally⟩
    exact tally.leave List.not_mem_nil wants supplied amount

end Evaluation

end Payslip
