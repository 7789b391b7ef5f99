/-
# Pay after reloading a catalog

Writing a component leaves out zeros that its percentages do not need, so a catalog that is
stored and loaded again computes with other operands than before: the same numbers at other
scales. `calculate_reload` says that nobody is paid differently for it. Every breakdown has
the same lines and totals as before, as numbers, and whatever failed fails in the same way.

The catalog may be any that the reader can produce, with repeated ids or cycles of
references.
-/

import Payslip.Proofs.Breakdown.Numbers
import Payslip.Proofs.Breakdown.Passes
import Payslip.Proofs.Evaluation.Correspondence
import Payslip.Proofs.Wire.Rereading

namespace Payslip

open Payslip.Reading Payslip.Text

/-! ## Alike catalogs -/

namespace Catalog

variable {catalog again : Catalog}

theorem component?_alike (each : List.Forall₂ Component.Alike catalog again) (id : String) :
    Option.Rel Component.Alike (catalog.component? id) (again.component? id) := by
  induction each with
  | nil => exact .none
  | cons first _ ih =>
      rw [component?, component?] at *
      rw [List.find?_cons, List.find?_cons, first.id_eq]
      split
      · exact .some first
      · exact ih

theorem components_alike (salaryStructure : SalaryStructure)
    (each : List.Forall₂ Component.Alike catalog again) :
    List.Forall₂ Component.Alike (salaryStructure.components catalog)
      (salaryStructure.components again) := by
  refine List.rel_filter ?_ each
  intro component component' same
  simp only [same.id_eq]

end Catalog

namespace Breakdown

open Evaluation

variable {catalog again : Catalog}

theorem evaluateAll_corresponds {monthly monthly' : Decimal} (alike : monthly.Alike monthly')
    (each : List.Forall₂ Component.Alike catalog again) {components components' : List Component}
    (listed : List.Forall₂ Component.Alike components components') :
    Corresponds (fun _ _ => True) (evaluateAll catalog monthly components)
      (evaluateAll again monthly' components') :=
  .forM listed fun _ _ entries =>
    (stored_corresponds alike (Catalog.component?_alike each) entries).discard

theorem fetchAll_corresponds (employee : Employee) {components components' : List Component}
    (listed : List.Forall₂ Component.Alike components components') :
    Corresponds (List.Forall₂ PaidAlike) (fetchAll employee components)
      (fetchAll employee components') := by
  intro run run' runs
  rw [runFrom_fetchAll, runFrom_fetchAll]
  refine ⟨.mapM listed fun component component' alike => ?_, runs⟩
  rw [alike.id_eq]
  exact (paidAmount_alike employee alike ((runs component.id).getD (.refl 0))).map
    fun _ _ same => ⟨alike, same⟩

/-- Alike catalogs pay alike. -/
theorem calculate_alike (employee : Employee) (salaryStructure : SalaryStructure)
    (workingDays : Option UInt32) (each : List.Forall₂ Component.Alike catalog again) :
    Outcome.Alike Breakdown.Alike (calculate employee salaryStructure catalog workingDays)
      (calculate employee salaryStructure again workingDays) := by
  have listed := Catalog.components_alike salaryStructure each
  have evaluations : Corresponds Breakdown.Alike
      (evaluate employee salaryStructure catalog workingDays)
      (evaluate employee salaryStructure again workingDays) := by
    rw [evaluate_eq, evaluate_eq]
    apply (evaluateAll_corresponds (.refl employee.monthlyCtc) each listed).bind
    intro _ _ _
    apply (fetchAll_corresponds employee listed).bind
    intro paid paid' lines
    exact .ofExcept (ofPaid_alike employee salaryStructure.name _ lines)
  exact (evaluations (.start ∅) (.start ∅) fun _ => .none).1

end Breakdown

/-! ## Reloading -/

namespace Catalog

/-- The catalog that is read back from the texts of its components. -/
def reload (catalog : Catalog) : Except ReadError Catalog :=
  catalog.mapM fun component =>
    (Json.parse (Source.ofString (Json.render component.document))).read Component.read

/-- A catalog whose components have all been read from somewhere. -/
def WasRead (catalog : Catalog) : Prop :=
  ∀ component ∈ catalog, ∃ given, Component.read given = .ok component

theorem exists_reload {catalog : Catalog} (given : catalog.WasRead) :
    ∃ again, catalog.reload = .ok again ∧ List.Forall₂ Component.Alike catalog again := by
  rw [reload]
  induction catalog with
  | nil => exact ⟨[], rfl, .nil⟩
  | cons first rest ih =>
      obtain ⟨others, read, alike⟩ :=
        ih fun component later => given component (List.mem_cons_of_mem first later)
      obtain ⟨source, made⟩ := given first List.mem_cons_self
      obtain ⟨again, reread, same⟩ := Component.exists_alike_of_read made
      refine ⟨again :: others, ?_, .cons same alike⟩
      rw [List.mapM_cons, read, Json.parse_render (.component first), Parsed.read, reread]
      rfl

end Catalog

namespace Breakdown

/-- A catalog that was read can be written and read again, and pays everybody what it paid before:
the same lines and totals, as numbers, or an error of the same kind, with the same cycle if it is a
circular reference. -/
theorem calculate_reload (catalog : Catalog) (given : catalog.WasRead) :
    ∃ again, catalog.reload = .ok again ∧ ∀ employee salaryStructure workingDays,
      Outcome.Alike Breakdown.Alike (calculate employee salaryStructure catalog workingDays)
        (calculate employee salaryStructure again workingDays) := by
  obtain ⟨again, read, alike⟩ := Catalog.exists_reload given
  exact ⟨again, read, fun employee salaryStructure workingDays =>
    calculate_alike employee salaryStructure workingDays alike⟩

/-- Half of another component, written with more digits than the percentage needs. -/
def paddedCatalog : Catalog := [.fixed "a%b" "Base" .earning (.mk false 1999 0), pluralComponent]

theorem calculate_reload_paddedCatalog :
    paddedCatalog.WasRead ∧
      ∃ again, paddedCatalog.reload = .ok again ∧ ∀ employee salaryStructure workingDays,
        Outcome.Alike Breakdown.Alike
          (calculate employee salaryStructure paddedCatalog workingDays)
          (calculate employee salaryStructure again workingDays) := by
  have base : Component.read
      (Component.fixed "a%b" "Base" .earning (.mk false 1999 0)).document =
        .ok (.fixed "a%b" "Base" .earning (.mk false 1999 0)) :=
    Outcome.eq_ok_of_toOption_eq_some (by decide +kernel)
  have given : paddedCatalog.WasRead := by
    intro component listed
    simp only [paddedCatalog, List.mem_cons, List.not_mem_nil, or_false] at listed
    obtain rfl | rfl := listed
    · exact ⟨_, base⟩
    · exact ⟨_, Component.read_pluralComponentText⟩
  exact ⟨given, calculate_reload paddedCatalog given⟩

end Breakdown

end Payslip
