/-
# Powers of ten and of two

Amounts are counted in powers of ten and binary numbers in powers of two. Both kinds of powers
have a name of their own here, with the few facts that the rest relies on.
-/

namespace Payslip

/-- Ten to the given power. -/
def tenPow (exponent : Nat) : Nat := Nat.pow 10 exponent

/-- Two to the given power. -/
def twoPow (exponent : Nat) : Nat := Nat.pow 2 exponent

@[simp] theorem tenPow_zero : tenPow 0 = 1 := rfl

theorem tenPow_succ (n : Nat) : tenPow (n + 1) = tenPow n * 10 := rfl

theorem tenPow_pos (n : Nat) : 0 < tenPow n := by
  induction n with
  | zero => decide
  | succ n ih => rw [tenPow_succ]; omega

theorem ten_le_tenPow {n : Nat} (h : 0 < n) : 10 ≤ tenPow n := by
  cases n with
  | zero => omega
  | succ n =>
    have := tenPow_pos n
    rw [tenPow_succ]
    omega

end Payslip
