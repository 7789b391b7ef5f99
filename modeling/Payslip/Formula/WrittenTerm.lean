/-
# The written form of a term

Stored formulas write a term as a kind and one text. For a percentage that text packs two
things, the percentage and the reference, with a percent sign between them: `60%basic`. The
percentage is plain digits with at most one point inside them, so it has no sign.
-/

import Payslip.Formula.Term

namespace Payslip

/-- The kinds of written terms. -/
inductive TermKind
  | component
  | percentage
  | operator
  deriving DecidableEq, Repr

/-- A term as it is stored. -/
structure WrittenTerm where
  kind : TermKind
  value : String
  deriving DecidableEq, Repr

/-- Why a written term stands for no term. -/
inductive TermFault
  | unknownOperator
  | emptyReference
  | noPercentSign
  | notPlainNumber
  | nothingReferenced
  | outOfRange (fault : Decimal.TextFault)
  /-- Any other reason, in words. -/
  | stated (reason : String)
  deriving DecidableEq, Repr

/-- The wording of a term fault. -/
def TermFault.message : TermFault → String
  | .unknownOperator => "operator must be one of + - * /"
  | .emptyReference => "component reference cannot be empty"
  | .noPercentSign => "expected '<percent>%<component>'"
  | .notPlainNumber => "percentage must be a plain decimal number"
  | .nothingReferenced => "percentage must reference a component"
  | .outOfRange fault => "percentage out of range: " ++ fault.message
  | .stated reason => reason

/-- A value that stands for no term, and why. -/
structure TermError where
  value : String
  fault : TermFault
  deriving DecidableEq, Repr

/-- The wording of a term error. -/
def TermError.message (error : TermError) : String :=
  "Invalid formula term '" ++ error.value ++ "': " ++ error.fault.message

/-- A run of at least one decimal digit. -/
def isDigits (text : List Char) : Bool :=
  !text.isEmpty && text.all Text.isDigit

/-- Digits, or digits, a point and digits. -/
def isPlainNumber (text : List Char) : Bool :=
  match text.span (· != '.') with
  | (whole, []) => isDigits whole
  | (whole, _ :: fraction) => isDigits whole && isDigits fraction

namespace Term

/-- The operator that a text stands for. -/
def readOperator (value : String) : Except TermError Operator :=
  match Operator.ofSymbol? value with
  | some op => .ok op
  | none => .error ⟨value, .unknownOperator⟩

/-- Unpacks a percentage: all before the first percent sign is the percentage, all behind it the
reference. -/
def readPercentage (value : String) : Except TermError Term :=
  match value.toList.span (· != '%') with
  | (_, []) => .error ⟨value, .noPercentSign⟩
  | (percent, _ :: reference) =>
    if !isPlainNumber percent then .error ⟨value, .notPlainNumber⟩
    else if reference.isEmpty then .error ⟨value, .nothingReferenced⟩
    else
      match Decimal.ofChars percent with
      | .ok percent => .ok (.percentage percent (.ofText (String.ofList reference)))
      | .error fault => .error ⟨value, .outOfRange fault⟩

/-- The term that a written form stands for. -/
def ofWritten (written : WrittenTerm) : Except TermError Term :=
  match written.kind with
  | .operator => (readOperator written.value).map .operator
  | .component =>
    if written.value.isEmpty then .error ⟨written.value, .emptyReference⟩
    else .ok (.value (.ofText written.value))
  | .percentage => readPercentage written.value

/-- The written form of a term. A percentage is written with no more digits than it needs. -/
def written : Term → WrittenTerm
  | .operator op => ⟨.operator, op.symbol⟩
  | .value reference => ⟨.component, reference.text⟩
  | .percentage percent reference =>
    ⟨.percentage, percent.normalize.render ++ "%" ++ reference.text⟩

end Term

end Payslip
