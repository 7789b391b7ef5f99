/-
# Amounts in rupees

Whole rupees for display: the last three digits form a group, and every two digits before them
form another, as in `₹12,34,567`.
-/

import Payslip.Decimal.Text

namespace Payslip.Currency

/-- The sign of the currency. -/
def symbol : String := "₹"

/-- Digits in groups of two, counted from the right, with a comma after each group. The digits and
the result are written last digit first. -/
def pairs : List Char → List Char
  | a :: b :: c :: rest => a :: b :: ',' :: pairs (c :: rest)
  | digits => digits

/-- Digits with a comma before the last three and before every two further to the left. -/
def group (digits : List Char) : List Char :=
  match digits.reverse with
  | a :: b :: c :: d :: rest => (a :: b :: c :: ',' :: pairs (d :: rest)).reverse
  | _ => digits

/-- An amount in whole rupees, a half going away from zero. -/
def format (amount : Decimal) : String :=
  let rounded := amount.roundTo 0
  let digits := Nat.toDigits 10 (rounded.coefficient / tenPow rounded.scale)
  (if rounded.isNegative then "-" else "") ++ symbol ++ String.ofList (group digits)

end Payslip.Currency
