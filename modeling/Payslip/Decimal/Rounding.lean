/-
# Rounding a quotient to a whole number

The two ways in which amounts lose digits: arithmetic rounds a half to the even
neighbour, money that is shown or paid rounds a half away from zero. Both work on the
quotient of two natural numbers; the sign is the caller's.
-/

namespace Payslip.Rounding

/-- `n / d` to the nearest whole number, a half going to the even neighbour. -/
def halfEven (n d : Nat) : Nat :=
  if d < 2 * (n % d) ∨ (2 * (n % d) = d ∧ (n / d) % 2 = 1) then n / d + 1 else n / d

/-- `n / d` to the nearest whole number, a half going up. -/
def halfUp (n d : Nat) : Nat :=
  if d ≤ 2 * (n % d) then n / d + 1 else n / d

theorem halfEven_le (n d : Nat) : halfEven n d ≤ n / d + 1 := by
  unfold halfEven; split <;> omega

theorem halfUp_le (n d : Nat) : halfUp n d ≤ n / d + 1 := by
  unfold halfUp; split <;> omega

@[simp] theorem halfEven_one (n : Nat) : halfEven n 1 = n := by
  simp [halfEven, Nat.mod_one]

end Payslip.Rounding
