/-
# Digits

The values of digits, and the numbers that runs of digits stand for. Only the digits of ASCII
count.
-/

namespace Payslip.Text

/-- The value of a decimal digit. -/
def digit? (c : Char) : Option Nat :=
  if '0' ≤ c ∧ c ≤ '9' then some (c.toNat - '0'.toNat) else none

/-- The character is a decimal digit. -/
def isDigit (c : Char) : Bool := (digit? c).isSome

/-- The value of a digit in a base of up to sixteen. -/
def digitIn? (base : Nat) (c : Char) : Option Nat :=
  let value :=
    if 'a' ≤ c ∧ c ≤ 'f' then some (c.toNat - 'a'.toNat + 10)
    else if 'A' ≤ c ∧ c ≤ 'F' then some (c.toNat - 'A'.toNat + 10)
    else digit? c
  value.filter (· < base)

/-- The number that a run of decimal digits stands for; there is none for an empty run or another
character. -/
def natural? (digits : List Char) : Option Nat :=
  if digits.isEmpty then none
  else digits.foldlM (fun n c => (digit? c).map (n * 10 + ·)) 0

/-- The number that a run of digits stands for in a base of up to sixteen. -/
def naturalIn? (base : Nat) (digits : List Char) : Option Nat :=
  if digits.isEmpty then none
  else digits.foldlM (fun n c => (digitIn? base c).map (n * base + ·)) 0

end Payslip.Text
