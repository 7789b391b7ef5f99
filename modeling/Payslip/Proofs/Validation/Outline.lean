/-
# The references of a catalog without its amounts

The outline of a catalog is what is left of it when every amount and every percentage is taken to
be zero: the ids, who refers to whom, and in which order. Two catalogs that differ in amounts and
percentages only are two catalogs with one outline.

The outline has the same components under the same ids, and it is refused for the same malformed
formulas and missing references.
-/

import Payslip.Proofs.Outcome
import Payslip.Validation

namespace Payslip

/-- The term with its percentage, if it has one, taken to be zero. -/
def Term.outline : Term → Term
  | .operator op => .operator op
  | .value reference => .value reference
  | .percentage _ reference => .percentage 0 reference

/-- The component with its amount and all its percentages taken to be zero. -/
def Component.outline (component : Component) : Component :=
  { component with amount := 0, terms := component.terms.map Term.outline }

/-- The catalog with every amount and every percentage taken to be zero. -/
def Catalog.outline (catalog : Catalog) : Catalog := catalog.map Component.outline

/-! ## What an outline keeps -/

@[simp]
theorem Term.isOperator_outline (term : Term) : term.outline.isOperator = term.isOperator := by
  cases term <;> rfl

@[simp]
theorem Term.componentId?_outline (term : Term) :
    term.outline.componentId? = term.componentId? := by
  cases term <;> rfl

@[simp]
theorem Component.id_outline (component : Component) : component.outline.id = component.id := rfl

@[simp]
theorem Component.category_outline (component : Component) :
    component.outline.category = component.category := rfl

@[simp]
theorem Component.terms_outline (component : Component) :
    component.outline.terms = component.terms.map Term.outline := rfl

@[simp]
theorem Component.dependencies_outline (component : Component) :
    component.outline.dependencies = component.dependencies := by
  have named : Term.componentId? ∘ Term.outline = Term.componentId? :=
    funext Term.componentId?_outline
  simp only [dependencies, category_outline, terms_outline, List.filterMap_map, named]
  rfl

namespace Formula

@[simp]
theorem misplaced?_outline (index : Nat) (terms : List Term) :
    misplaced? index (terms.map Term.outline) = misplaced? index terms := by
  induction terms generalizing index with
  | nil => rfl
  | cons left later ih =>
      cases later with
      | nil => rfl
      | cons right rest =>
          rw [List.map_cons] at ih
          simp only [List.map_cons, misplaced?, Term.isOperator_outline, ih]

@[simp]
theorem validate_outline (componentId : String) (terms : List Term) :
    validate componentId (terms.map Term.outline) = validate componentId terms := by
  simp only [validate, fault?, misplaced?_outline, List.head?_map, List.getLast?_map,
    Option.any_map, List.any_map, Function.comp_def, Term.isOperator_outline,
    Term.componentId?_outline]

/-- A formula is only ever refused as malformed. -/
theorem exists_of_validate_eq_error {componentId : String} {terms : List Term} {error : PayError}
    (refused : validate componentId terms = .error error) :
    ∃ fault, error = .invalidFormula componentId fault := by
  rw [validate] at refused
  split at refused
  · cases refused
  · next fault _ => exact ⟨fault, (Except.error.inj refused).symm⟩

end Formula

namespace Catalog

variable {catalog : Catalog}

theorem component?_outline (id : String) :
    catalog.outline.component? id = (catalog.component? id).map Component.outline := by
  rw [component?, component?, outline, List.find?_map]
  rfl

/-- A component of the outline is refused for the same reason as the one it outlines. -/
theorem validateEntry_outline (entry : Component) :
    catalog.outline.validateEntry entry.outline = catalog.validateEntry entry := by
  have absent : (fun id => (catalog.outline.component? id).isNone) =
      fun id => (catalog.component? id).isNone := by
    funext id
    rw [component?_outline, Option.isNone_map]
  simp only [validateEntry, Component.dependencies_outline, Component.category_outline,
    Component.terms_outline, Component.id_outline, Formula.validate_outline, absent]

/-- Checking the entries of the outline is checking those of the catalog. -/
theorem forM_validateEntry_outline (entries : List Component) :
    (entries.map Component.outline).forM catalog.outline.validateEntry =
      entries.forM catalog.validateEntry := by
  induction entries with
  | nil => rfl
  | cons entry rest ih =>
      show (catalog.outline.validateEntry entry.outline >>= fun _ =>
        (rest.map Component.outline).forM catalog.outline.validateEntry) = _
      rw [validateEntry_outline, ih]
      rfl

/-- A component is refused for its formula or for a reference to what does not exist. -/
theorem exists_of_validateEntry_eq_error {entry : Component} {error : PayError}
    (refused : catalog.validateEntry entry = .error error) :
    (∃ id fault, error = .invalidFormula id fault) ∨ ∃ id, error = .componentNotFound id := by
  rw [validateEntry] at refused
  split at refused
  case isTrue =>
    cases formula : Formula.validate entry.id entry.terms with
    | error other =>
        rw [formula] at refused
        obtain ⟨fault, rfl⟩ := Formula.exists_of_validate_eq_error formula
        exact .inl ⟨entry.id, fault, (Except.error.inj refused).symm⟩
    | ok _ =>
        rw [formula, Outcome.ok_bind] at refused
        split at refused
        · next missing _ => exact .inr ⟨missing, (Except.error.inj refused).symm⟩
        · cases refused
  case isFalse =>
    split at refused
    · next missing _ => exact .inr ⟨missing, (Except.error.inj refused).symm⟩
    · cases refused

end Catalog

end Payslip
