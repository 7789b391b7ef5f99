/-
# References

A component is computed from the employee's monthly cost to company or from other components,
which are named by their ids. One text, `ctc`, is set aside for the cost to company.
-/

namespace Payslip

/-- What an amount is derived from: the monthly cost to company, or a component by its id. -/
inductive Reference
  | ctc
  | component (id : String)
  deriving DecidableEq, Repr, Inhabited

namespace Reference

/-- The text that stands for the cost to company. -/
def ctcText : String := "ctc"

/-- The reference that a text stands for. -/
def ofText (text : String) : Reference := if text = ctcText then .ctc else .component text

/-- The text of a reference. -/
def text : Reference → String
  | .ctc => ctcText
  | .component id => id

/-- The id of the component that is referred to, if it is one. -/
def componentId? : Reference → Option String
  | .ctc => none
  | .component id => some id

@[simp] theorem text_ofText (text : String) : (ofText text).text = text := by
  unfold ofText
  split
  · next h => exact h.symm
  · rfl

end Reference

end Payslip
