/-
# Amounts in rupees read back

An amount for display is written in whole rupees, and its digits are cut by commas: three at the
end, two in every group before them, and one or two in the first. `format_writes` says that the
text is of this form and that its digits are those of the rounded amount: this number can be read
back from the text, and nothing else of the amount can.

The cut is made from the right, on reversed digits. What comes of it is said of the text as it is
read, and `List.splitOn` undoes it.
-/

import Payslip.Currency
import Payslip.Proofs.Breakdown.Amounts
import Payslip.Proofs.Decimal.Nearest
import Payslip.Proofs.Decimal.Text

namespace Payslip.Currency

open Decimal

/-! ## The form of the text -/

/-- The groups of the digits: up to three without a comma, and otherwise one or two at first, three
at last, and two in between. -/
inductive Grouped : List (List Char) → Prop
  | short {digits : List Char} (few : digits.length ≤ 3) : Grouped [digits]
  | long {first last : List Char} {pairs : List (List Char)}
      (start : first.length = 1 ∨ first.length = 2) (between : ∀ pair ∈ pairs, pair.length = 2)
      (thousand : last.length = 3) : Grouped (first :: (pairs ++ [last]))

/-- The text of so many whole rupees: a sign if there are less than none, the sign of the currency,
and the digits, with commas between their groups. -/
def Writes (text : String) (n : ℤ) : Prop :=
  ∃ digits : List Char,
    text.toList = (if n < 0 then ['-'] else []) ++ '₹' :: digits ∧
    Grouped (digits.splitOn ',') ∧
    Text.Numeral (digits.filter (· ≠ ',')) n.natAbs

/-- A text is that of one number only. -/
theorem Writes.unique {text : String} {n m : ℤ} (first : Writes text n) (second : Writes text m) :
    n = m := by
  obtain ⟨digits, read, -, spelled⟩ := first
  obtain ⟨digits', read', -, spelled'⟩ := second
  rw [read] at read'
  have size : digits = digits' → n.natAbs = m.natAbs := by
    rintro rfl
    exact spelled.number.symm.trans spelled'.number
  by_cases below : n < 0 <;> by_cases below' : m < 0
  · have same := size (by simpa [below, below'] using read')
    omega
  · simp [below, below'] at read'
  · simp [below, below'] at read'
  · have same := size (by simpa [below, below'] using read')
    omega

/-! ## The groups -/

variable {digits : List Char}

/-- A group behind a comma is the last one. -/
theorem splitOn_append_comma (before : List Char) {group : List Char} (clean : ',' ∉ group) :
    (before ++ ',' :: group).splitOn ',' = before.splitOn ',' ++ [group] := by
  rw [List.splitOn_append_cons_self, List.splitOn_eq_singleton clean]

theorem filter_of_clean (clean : ',' ∉ digits) : digits.filter (· ≠ ',') = digits := by
  refine List.filter_eq_self.mpr fun c listed => ?_
  rw [decide_eq_true_iff]
  rintro rfl
  exact clean listed

/-- Reversed digits in pairs, read from the left: every group has two, but the first may have
one. -/
theorem splitOn_pairs (some_digit : digits ≠ []) (clean : ',' ∉ digits) :
    ∃ first others, (pairs digits).reverse.splitOn ',' = first :: others ∧
      (first.length = 1 ∨ first.length = 2) ∧ ∀ pair ∈ others, pair.length = 2 := by
  fun_induction pairs digits with
  | case1 a b c rest ih =>
      simp only [List.mem_cons, not_or] at clean
      obtain ⟨first, others, cut, start, between⟩ :=
        ih (List.cons_ne_nil c rest) (by simp [clean])
      refine ⟨first, others ++ [[b, a]], ?_, start, ?_⟩
      · have pair : ',' ∉ [b, a] := by simp [clean]
        have last := splitOn_append_comma (pairs (c :: rest)).reverse pair
        rw [cut] at last
        simpa using last
      · simpa [or_imp, forall_and] using between
  | case2 digits few =>
      refine ⟨digits.reverse, [], List.splitOn_eq_singleton (by simpa using clean), ?_,
        List.forall_mem_nil _⟩
      match digits, few with
      | [_], _ => exact .inl rfl
      | [_, _], _ => exact .inr rfl
      | a :: b :: c :: rest, few => exact absurd rfl (few a b c rest)

/-- Only commas are added. -/
theorem filter_pairs (clean : ',' ∉ digits) : (pairs digits).filter (· ≠ ',') = digits := by
  fun_induction pairs digits with
  | case1 a b c rest ih =>
      simp only [List.mem_cons, not_or] at clean
      have onward := ih (by simp [clean])
      simpa [Ne.symm clean.1, Ne.symm clean.2.1] using onward
  | case2 digits few => exact filter_of_clean clean

theorem group_of_few (few : digits.length ≤ 3) : group digits = digits := by
  rw [group]
  split
  · next a b c d rest reversed =>
    have many := congrArg List.length reversed
    simp only [List.length_reverse, List.length_cons] at many
    omega
  · rfl

/-- The last three of more digits form a group, and the others are cut into pairs. -/
theorem exists_group_eq (many : 3 < digits.length) :
    ∃ front last, digits = front ++ last ∧ front ≠ [] ∧ last.length = 3 ∧
      group digits = (pairs front.reverse).reverse ++ ',' :: last := by
  match reversed : digits.reverse with
  | a :: b :: c :: d :: rest =>
      refine ⟨(d :: rest).reverse, [c, b, a], ?_, by simp, rfl, ?_⟩
      · rw [← List.reverse_reverse digits, reversed]
        simp
      · rw [group, reversed]
        simp
  | [] | [_] | [_, _] | [_, _, _] =>
      have few := congrArg List.length reversed
      simp only [List.length_reverse, List.length_cons, List.length_nil] at few
      omega

theorem grouped_group (clean : ',' ∉ digits) : Grouped ((group digits).splitOn ',') := by
  by_cases few : digits.length ≤ 3
  · rw [group_of_few few, List.splitOn_eq_singleton clean]
    exact .short few
  · obtain ⟨front, last, rfl, some_digit, thousand, cut⟩ := exists_group_eq (Nat.not_le.mp few)
    rw [List.mem_append, not_or] at clean
    obtain ⟨first, others, groups, start, between⟩ :=
      splitOn_pairs (List.reverse_ne_nil_iff.mpr some_digit) (by simpa using clean.1)
    rw [cut, splitOn_append_comma _ clean.2, groups]
    exact .long start between thousand

theorem filter_group (clean : ',' ∉ digits) : (group digits).filter (· ≠ ',') = digits := by
  by_cases few : digits.length ≤ 3
  · rw [group_of_few few, filter_of_clean clean]
  · obtain ⟨front, last, rfl, -, -, cut⟩ := exists_group_eq (Nat.not_le.mp few)
    rw [List.mem_append, not_or] at clean
    have reversed : ',' ∉ front.reverse := by simpa using clean.1
    rw [cut, List.filter_append, List.filter_reverse, filter_pairs reversed,
      List.reverse_reverse, List.filter_cons_of_neg (by simp), filter_of_clean clean.2]

/-! ## The number -/

/-- The amount in whole rupees, a half going away from zero. -/
def rupees (amount : Decimal) : ℤ := nearestAway amount.toRat

theorem units_roundTo_zero (amount : Decimal) : (amount.roundTo 0).units = rupees amount := by
  have value := toRat_roundTo 0 amount
  have whole := Nat.le_zero.mp (scale_roundTo_le 0 amount)
  rw [toRat_eq_units_div, whole, tenPow_zero, Nat.cast_one, mul_one, div_one, div_one] at value
  exact_mod_cast value

/-- The text hangs on the amount in whole rupees only. -/
theorem format_eq (amount : Decimal) :
    format amount = (if rupees amount < 0 then "-" else "") ++ symbol ++
      String.ofList (group (Nat.toDigits 10 (rupees amount).natAbs)) := by
  have whole := Nat.le_zero.mp (scale_roundTo_le 0 amount)
  simp only [format, whole, tenPow_zero, Nat.div_one, isNegative_iff_units_neg,
    units_roundTo_zero, ← natAbs_units]

theorem writes_format (amount : Decimal) : Writes (format amount) (rupees amount) := by
  have numeral := Text.numeral_toDigits (rupees amount).natAbs
  have clean : ',' ∉ Nat.toDigits 10 (rupees amount).natAbs := fun comma =>
    Text.ne_of_isDigit (numeral.each ',' comma) rfl rfl
  refine ⟨group (Nat.toDigits 10 (rupees amount).natAbs), ?_, grouped_group clean, ?_⟩
  · rw [format_eq]
    split <;> simp [symbol]
  · rw [filter_group clean]
    exact numeral

/-- An amount is written in whole rupees, a half going away from zero, and amounts are written
alike exactly if they are the same in whole rupees. -/
theorem format_writes (amount : Decimal) :
    Writes (format amount) (rupees amount) ∧
      ∀ other, format amount = format other ↔ rupees amount = rupees other := by
  refine ⟨writes_format amount, fun other => ⟨fun same => ?_, fun same => ?_⟩⟩
  · have read := writes_format amount
    rw [same] at read
    exact read.unique (writes_format other)
  · rw [format_eq, format_eq, same]

-- Half a rupee adds a digit and with it a group.
example : format (.mk true 9999950 2) = "-₹1,00,000" := by decide +kernel

end Payslip.Currency
