/-
# Components as documents

The fields under which components and their terms are stored and sent. Reading accepts the plural
of a kind and leaves out what has a default; writing uses the singular, writes amounts as texts,
and leaves out the terms when there are none.
-/

import Payslip.Component
import Payslip.Wire.Basic

namespace Payslip

open Payslip.Reading

/-- Reads the text of a reference. -/
def Reference.read : Reader Reference := fun document => (Reader.text document).map .ofText

/-- The kinds of terms by name. -/
def TermKind.choices : List (String × TermKind) :=
  [("component", .component), ("percentage", .percentage), ("operator", .operator)]

/-- The name of a kind of terms. -/
def TermKind.name : TermKind → String
  | .component => "component"
  | .percentage => "percentage"
  | .operator => "operator"

/-- The fields of a written term. -/
def WrittenTerm.record : RecordReader WrittenTerm :=
  WrittenTerm.mk
    <$> .required "type" (Reader.choice TermKind.choices)
    <*> .required "value" Reader.text

/-- The written term as a document. -/
def WrittenTerm.document (written : WrittenTerm) : Document :=
  .ofFields [("type", .ofText written.kind.name), ("value", .ofText written.value)]

namespace Term

/-- The term that a written form stands for, with the fault of a bad one. -/
def convert (written : WrittenTerm) : Except Fault Term := (ofWritten written).mapError .badTerm

/-- Reads a term. -/
def read : Reader Term := fun document => do
  (convert (← WrittenTerm.record.read document)).mapError .here

/-- Reads a formula. -/
def readAll : Reader (List Term) := Reader.listWith WrittenTerm.record.read convert

/-- The term as a document. -/
def document (term : Term) : Document := term.written.document

end Term

namespace Component

/-- The kinds of components by name. -/
def Kind.choices : List (String × Kind) :=
  [("earning", .earning), ("earnings", .earning), ("deduction", .deduction),
    ("deductions", .deduction)]

/-- The name of a kind of components. -/
def Kind.name : Kind → String
  | .earning => "earning"
  | .deduction => "deduction"

/-- The categories of components by name. -/
def Category.choices : List (String × Category) :=
  [("fixed", .fixed), ("percentage", .percentage), ("formula", .formula)]

/-- The name of a category of components. -/
def Category.name : Category → String
  | .fixed => "fixed"
  | .percentage => "percentage"
  | .formula => "formula"

/-- The fields of a component. -/
def record : RecordReader Component :=
  Component.mk
    <$> .required "id" Reader.text
    <*> .required "name" Reader.text
    <*> .required "component_type" (Reader.choice Kind.choices)
    <*> .required "component_category" (Reader.choice Category.choices)
    <*> .defaulted "amount" Reader.amount 0
    <*> .defaulted "based_on" Reference.read .ctc
    <*> .defaulted "formula_terms" Term.readAll []
    <*> .defaulted "apply_lop_deduction" Reader.bool false

/-- Reads a component. -/
def read : Reader Component := record.read

/-- The component as a document. -/
def document (component : Component) : Document :=
  .ofFields <|
    [("id", .ofText component.id),
      ("name", .ofText component.name),
      ("component_type", .ofText component.kind.name),
      ("component_category", .ofText component.category.name),
      ("amount", component.amount.document),
      ("based_on", .ofText component.basedOn.text)] ++
    (if component.terms.isEmpty then []
      else [("formula_terms", .ofList (component.terms.map Term.document))]) ++
    [("apply_lop_deduction", .bool component.prorated)]

end Component

end Payslip
