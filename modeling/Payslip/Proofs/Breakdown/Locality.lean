/-
# Pay depends on what a structure can reach

A breakdown filters the catalog by the structure and evaluates what is left, and evaluating
follows references. Nothing else of the catalog or of the structure is looked at. The central
fact is `evaluate_congr`: two breakdowns of one employee are one and the same computation when
the components of the structures are the same and the catalogs agree on all that these lead to.
Nothing is assumed of the references, so it holds of breakdowns that fail as well.

What order, repetition and unknown ids in a structure do to pay, and entries of the catalog that
nothing leads to, is then a matter of what is filtered and what is found.
-/

import Payslip.Proofs.Breakdown.Passes
import Payslip.Proofs.Evaluation.Reach

namespace Payslip

open Evaluation

/-- A breakdown under the structure may look the id up in the catalog. -/
def SalaryStructure.Needs (salaryStructure : SalaryStructure) (catalog : Catalog)
    (id : String) : Prop :=
  salaryStructure.contains id = true ∨
    catalog.ReachedFrom (salaryStructure.components catalog) id

namespace Catalog

/-- The entries of a catalog whose ids are worth keeping. -/
def kept (catalog : Catalog) (keep : String → Bool) : Catalog := catalog.filter (keep ·.id)

/-- What is found under an id that is kept does not hang on the entries that are not. -/
theorem component?_kept (catalog : Catalog) {keep : String → Bool} {id : String}
    (wanted : keep id = true) : (catalog.kept keep).component? id = catalog.component? id := by
  rw [component?, component?, kept, List.find?_filter]
  congr 1
  funext entry
  by_cases hit : entry.id = id
  · simp [hit, wanted]
  · simp [hit]

end Catalog

namespace SalaryStructure

/-- A structure takes the same components from a catalog when what it leaves is not kept. -/
theorem components_kept (salaryStructure : SalaryStructure) (catalog : Catalog)
    {keep : String → Bool} (wanted : ∀ id, salaryStructure.contains id = true → keep id = true) :
    salaryStructure.components (catalog.kept keep) = salaryStructure.components catalog := by
  rw [components, components, Catalog.kept, List.filter_filter]
  congr 1
  funext entry
  cases contained : salaryStructure.contains entry.id with
  | false => rfl
  | true => simp [wanted entry.id contained]

theorem contains_iff {salaryStructure : SalaryStructure} {id : String} :
    salaryStructure.contains id = true ↔ id ∈ salaryStructure.componentIds := by
  simp [contains]

/-- Structures that list the same ids of a catalog take the same components from it. -/
theorem components_eq_of_mem_iff {first second : SalaryStructure} {catalog : Catalog}
    (same : ∀ id ∈ catalog.ids, id ∈ second.componentIds ↔ id ∈ first.componentIds) :
    second.components catalog = first.components catalog := by
  apply List.filter_congr
  intro entry listed
  rw [Bool.eq_iff_iff, contains_iff, contains_iff]
  exact same entry.id (List.mem_map_of_mem listed)

end SalaryStructure

namespace Breakdown

variable {employee : Employee} {first second : SalaryStructure} {catalog again : Catalog}
  {workingDays : Option UInt32}

theorem evaluateAll_congr (monthly : Decimal) {components : List Component}
    (agrees : ∀ id, catalog.ReachedFrom components id →
      again.component? id = catalog.component? id) :
    evaluateAll again monthly components = evaluateAll catalog monthly components := by
  have each : ∀ entry ∈ components, stored again monthly entry = stored catalog monthly entry :=
    fun entry listed => stored_congr monthly fun dependency needed other way =>
      agrees other ⟨entry, listed, dependency, needed, way⟩
  rw [evaluateAll, evaluateAll]
  clear agrees
  induction components with
  | nil => rfl
  | cons entry rest ih =>
      rw [List.forM, List.forM, each entry List.mem_cons_self,
        ih fun later listed => each later (List.mem_cons_of_mem entry listed)]

/-- Breakdowns under structures with the same components are one computation when the catalogs
agree on all that these components lead to. -/
theorem evaluate_congr (named : second.name = first.name)
    (components : second.components again = first.components catalog)
    (agrees : ∀ id, catalog.ReachedFrom (first.components catalog) id →
      again.component? id = catalog.component? id) :
    evaluate employee second again workingDays = evaluate employee first catalog workingDays := by
  rw [evaluate_eq, evaluate_eq, named, components, evaluateAll_congr _ agrees]

theorem calculate_congr (named : second.name = first.name)
    (components : second.components again = first.components catalog)
    (agrees : ∀ id, catalog.ReachedFrom (first.components catalog) id →
      again.component? id = catalog.component? id) :
    calculate employee second again workingDays =
      calculate employee first catalog workingDays := by
  rw [calculate, calculate, run, run, evaluate_congr named components agrees]

/-- A breakdown depends only on what its structure can reach. It is the same, errors included, under
structures of one name that take the same components from their catalogs, if these agree on
every id that the references of the components lead to. So neither the order of the ids of a
structure, nor repeating them, nor ids that are not in the catalog make a difference, and neither
do entries of the catalog that are not needed: they may be changed, added, removed or moved. -/
theorem calculate_confined (employee : Employee) (workingDays : Option UInt32) :
    (∀ (first second : SalaryStructure) (catalog again : Catalog), second.name = first.name →
      second.components again = first.components catalog →
      (∀ id, catalog.ReachedFrom (first.components catalog) id →
        again.component? id = catalog.component? id) →
      calculate employee second again workingDays =
        calculate employee first catalog workingDays) ∧
    (∀ (first second : SalaryStructure) (catalog : Catalog), second.name = first.name →
      (∀ id ∈ catalog.ids, id ∈ second.componentIds ↔ id ∈ first.componentIds) →
      calculate employee second catalog workingDays =
        calculate employee first catalog workingDays) ∧
    ∀ (salaryStructure : SalaryStructure) (catalog again : Catalog) (keep : String → Bool),
      (∀ id, salaryStructure.Needs catalog id → keep id = true) →
      again.kept keep = catalog.kept keep →
      calculate employee salaryStructure again workingDays =
        calculate employee salaryStructure catalog workingDays := by
  refine ⟨?_, ?_, ?_⟩
  · intro first second catalog again named components agrees
    exact calculate_congr named components agrees
  · intro first second catalog named same
    exact calculate_congr named (SalaryStructure.components_eq_of_mem_iff same) fun _ _ => rfl
  · intro salaryStructure catalog again keep wanted same
    have contained : ∀ id, salaryStructure.contains id = true → keep id = true :=
      fun id listed => wanted id (.inl listed)
    apply calculate_congr rfl
    · rw [← salaryStructure.components_kept again contained, same,
        salaryStructure.components_kept catalog contained]
    · intro id reached
      have kept := wanted id (.inr reached)
      rw [← again.component?_kept kept, same, catalog.component?_kept kept]

/-- A bonus that takes part in a cycle, a reference that leads nowhere and an entry of no concern to
either. -/
def entangledCatalog : Catalog :=
  [.fixed "spare" "Spare" .deduction (.ofWord 10),
    .percentage "basic" "Basic" .earning (.ofWord 40) .ctc,
    .formula "bonus" "Bonus" .earning [.value (.component "grade"), .value (.component "perk")],
    .percentage "grade" "Grade" .earning (.ofWord 5) (.component "bonus")]

/-- The same without the spare entry, and with one that refers to the others and to itself. -/
def editedCatalog : Catalog :=
  [.percentage "basic" "Basic" .earning (.ofWord 40) .ctc,
    .formula "bonus" "Bonus" .earning [.value (.component "grade"), .value (.component "perk")],
    .formula "tip" "Tip" .deduction [.value (.component "tip"), .value (.component "basic")],
    .percentage "grade" "Grade" .earning (.ofWord 5) (.component "bonus")]

theorem calculate_confined_entangledCatalog :
    calculate ⟨"E1", "Asha", .ofWord 1000000, 4, none⟩
        ⟨"new", "Standard", ["bonus", "basic", "gone", "basic"]⟩ editedCatalog none =
      calculate ⟨"E1", "Asha", .ofWord 1000000, 4, none⟩
        ⟨"std", "Standard", ["basic", "bonus"]⟩ entangledCatalog none ∧
    calculate ⟨"E1", "Asha", .ofWord 1000000, 4, none⟩
        ⟨"new", "Standard", ["bonus", "basic", "gone", "basic"]⟩ entangledCatalog none =
      calculate ⟨"E1", "Asha", .ofWord 1000000, 4, none⟩
        ⟨"std", "Standard", ["basic", "bonus"]⟩ entangledCatalog none ∧
    calculate ⟨"E1", "Asha", .ofWord 1000000, 4, none⟩
        ⟨"std", "Standard", ["basic", "bonus"]⟩ editedCatalog none =
      calculate ⟨"E1", "Asha", .ofWord 1000000, 4, none⟩
        ⟨"std", "Standard", ["basic", "bonus"]⟩ entangledCatalog none := by
  obtain ⟨confined, structures, catalogs⟩ :=
    calculate_confined ⟨"E1", "Asha", .ofWord 1000000, 4, none⟩ none
  have closed : ∀ id, entangledCatalog.ReachedFrom
      (SalaryStructure.components ⟨"std", "Standard", ["basic", "bonus"]⟩ entangledCatalog) id →
      id ∈ ["bonus", "grade", "perk"] :=
    fun id reached => reached.mem_of_closed (by decide) (by decide)
  refine ⟨confined _ _ _ _ rfl rfl ?_, structures _ _ _ rfl (by decide), ?_⟩
  · intro id reached
    have same : ∀ id ∈ ["bonus", "grade", "perk"],
        editedCatalog.component? id = entangledCatalog.component? id := by decide
    exact same id (closed id reached)
  · refine catalogs _ entangledCatalog editedCatalog
      (["basic", "bonus", "grade", "perk"].contains ·) ?_ rfl
    rintro id (contained | reached)
    · have listed : id ∈ ["basic", "bonus"] := SalaryStructure.contains_iff.mp contained
      rw [List.contains_iff_mem]
      exact List.mem_of_mem_take (i := 2) listed
    · rw [List.contains_iff_mem]
      exact List.mem_cons_of_mem _ (closed id reached)

end Breakdown

end Payslip
