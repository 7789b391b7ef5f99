/-
# Reading back the text of an amount

An amount is written with all its digits, so nothing about it is lost in its text but
the sign of a zero, which the reader drops. `ofChars_chars` says so for every amount,
whatever its scale: the reader neither rounds nor refuses what the writer produces,
although it would do both with longer texts.

`Scan.run` reads from left to right, so its lemmas say how far a run of digits takes it
in front of the point and behind it.
-/

import Payslip.Decimal.Text
import Payslip.Proofs.Outcome

namespace Payslip

namespace Text

/-- A decimal digit has the value that its place among the characters gives it. -/
theorem digit?_of_isDigit {c : Char} (digit : c.isDigit = true) :
    digit? c = some (c.toNat - '0'.toNat) := by
  have range : '0' ≤ c ∧ c ≤ '9' := by
    simpa [Char.isDigit, Char.le_def] using digit
  exact if_pos range

theorem isDigit_of_isDigit {c : Char} (digit : c.isDigit = true) : isDigit c = true := by
  rw [isDigit, digit?_of_isDigit digit]
  rfl

theorem ne_of_isDigit {c d : Char} (digit : c.isDigit = true) (other : d.isDigit = false) :
    c ≠ d := by
  rintro rfl
  rw [digit] at other
  cases other

theorem head?_toDigits_ne_zero {n : Nat} (positive : 0 < n) :
    (Nat.toDigits 10 n).head? ≠ some '0' := by
  induction n using Nat.strongRecOn with
  | ind n ih =>
      by_cases single : n < 10
      · rw [Nat.toDigits_of_lt_base single, List.head?_cons, ne_eq, Option.some.injEq,
          Nat.digitChar_eq_zero]
        omega
      · have onward := ih (n / 10) (by omega) (by omega)
        rw [Nat.toDigits_of_base_le (by decide) (Nat.not_lt.mp single)]
        cases front : Nat.toDigits 10 (n / 10) with
        | nil => exact absurd front Nat.toDigits_ne_nil
        | cons c others =>
            rw [front] at onward
            exact onward

/-- The digits are those in which a number is written: no other character, and no zero in front
unless there is nothing else. -/
structure Numeral (digits : List Char) (n : Nat) : Prop where
  each : ∀ c ∈ digits, c.isDigit = true
  leading : digits.head? = some '0' → digits = ['0']
  some_digit : digits ≠ []
  number : Nat.ofDigitChars 10 digits 0 = n

theorem numeral_toDigits (n : Nat) : Numeral (Nat.toDigits 10 n) n where
  each _ := Nat.isDigit_of_mem_toDigits (by decide) (by decide)
  leading zero := by
    rcases Nat.eq_zero_or_pos n with rfl | positive
    · exact Nat.toDigits_zero 10
    · exact absurd zero (head?_toDigits_ne_zero positive)
  some_digit := Nat.toDigits_ne_nil
  number := Nat.ofDigitChars_ten_toDigits

end Text

namespace Decimal

/-! ## Scanning digits -/

theorem le_ofDigitChars (digits : List Char) (n : Nat) : n ≤ Nat.ofDigitChars 10 digits n := by
  induction digits generalizing n with
  | nil => simp
  | cons c rest ih =>
      rw [Nat.ofDigitChars_cons]
      have larger := ih (10 * n + (c.toNat - '0'.toNat))
      omega

namespace Scan

/-- A digit in front of the point is taken in as long as the number stays in range. -/
theorem run_cons_of_whole {seen : Scan} {c : Char} {rest : List Char}
    (digit : c.isDigit = true) (whole : seen.pointSeen = false)
    (inRange : 10 * seen.coefficient + (c.toNat - '0'.toNat) < bound) :
    run seen (c :: rest) =
      run { seen with
        coefficient := 10 * seen.coefficient + (c.toNat - '0'.toNat)
        digitSeen := true } rest := by
  rw [run, Text.digit?_of_isDigit digit]
  simp only [whole, Nat.mul_comm seen.coefficient 10]
  rw [if_neg (by simp), if_neg (Nat.not_le.mpr inRange)]

/-- So is one behind the point, as long as there is room for it. -/
theorem run_cons_of_fraction {seen : Scan} {c : Char} {rest : List Char}
    (digit : c.isDigit = true) (fraction : seen.pointSeen = true) (room : seen.scale < maxScale)
    (inRange : 10 * seen.coefficient + (c.toNat - '0'.toNat) < bound) :
    run seen (c :: rest) =
      run { seen with
        coefficient := 10 * seen.coefficient + (c.toNat - '0'.toNat)
        scale := seen.scale + 1
        digitSeen := true } rest := by
  rw [run, Text.digit?_of_isDigit digit]
  simp only [fraction, Nat.mul_comm seen.coefficient 10]
  have fits : ¬ (seen.scale = maxScale ∨
      bound ≤ 10 * seen.coefficient + (c.toNat - '0'.toNat)) := by
    omega
  rw [if_pos trivial, if_neg fits]

/-- A run of digits in front of the point. -/
theorem run_append_of_whole {digits : List Char} (seen : Scan) (rest : List Char)
    (each : ∀ c ∈ digits, c.isDigit = true) (some_digit : digits ≠ [])
    (whole : seen.pointSeen = false)
    (inRange : Nat.ofDigitChars 10 digits seen.coefficient < bound) :
    run seen (digits ++ rest) =
      run { seen with
        coefficient := Nat.ofDigitChars 10 digits seen.coefficient
        digitSeen := true } rest := by
  induction digits generalizing seen with
  | nil => exact absurd rfl some_digit
  | cons c digits ih =>
      rw [Nat.ofDigitChars_cons] at inRange ⊢
      have first := Nat.lt_of_le_of_lt (le_ofDigitChars digits _) inRange
      rw [List.cons_append, run_cons_of_whole (each c List.mem_cons_self) whole first]
      cases digits with
      | nil => rfl
      | cons d digits =>
          exact ih _ (fun d listed => each d (List.mem_cons_of_mem c listed))
            (List.cons_ne_nil d digits) whole inRange

/-- A run of digits behind the point, up to the end of the text. -/
theorem run_of_fraction {digits : List Char} (seen : Scan)
    (each : ∀ c ∈ digits, c.isDigit = true) (some_digit : seen.digitSeen = true)
    (fraction : seen.pointSeen = true) (room : seen.scale + digits.length ≤ maxScale)
    (inRange : Nat.ofDigitChars 10 digits seen.coefficient < bound) :
    run seen digits =
      .ok (Nat.ofDigitChars 10 digits seen.coefficient, seen.scale + digits.length) := by
  induction digits generalizing seen with
  | nil => simp [run, some_digit]
  | cons c digits ih =>
      rw [Nat.ofDigitChars_cons] at inRange ⊢
      rw [List.length_cons] at room ⊢
      have first := Nat.lt_of_le_of_lt (le_ofDigitChars digits _) inRange
      have onward := ih { seen with
          coefficient := 10 * seen.coefficient + (c.toNat - '0'.toNat)
          scale := seen.scale + 1
          digitSeen := true }
        (fun d listed => each d (List.mem_cons_of_mem c listed)) rfl fraction
        (by dsimp only; omega) inRange
      rw [run_cons_of_fraction (each c List.mem_cons_self) fraction (by omega) first, onward,
        Nat.add_right_comm, Nat.add_assoc]

end Scan

/-! ## Behind the sign -/

/-- A text that starts with a digit has no sign, so all of it is scanned. -/
theorem ofChars_cons {c : Char} {rest : List Char} (digit : c.isDigit = true) :
    ofChars (c :: rest) =
      Scan.start.run (c :: rest) >>= fun read =>
        match build? false read.1 read.2 with
        | some x => .ok x
        | none => .error .tooManyDigits := by
  rw [ofChars]
  · rfl
  · intro rest same
    cases same
    cases digit
  · intro rest same
    cases same
    cases digit

/-! ## The written form -/

section Written

variable (x : Decimal)

/-- The digits in front of the point. -/
def wholeDigits : List Char := x.paddedDigits.take (x.paddedDigits.length - x.scale)

/-- The digits behind the point. -/
def fractionDigits : List Char := x.paddedDigits.drop (x.paddedDigits.length - x.scale)

/-- The written form without its sign. -/
def magnitudeChars : List Char :=
  x.wholeDigits ++ if x.scale = 0 then [] else '.' :: x.fractionDigits

theorem chars_eq : x.chars = (if x.negative then ['-'] else []) ++ x.magnitudeChars :=
  List.append_assoc _ _ _

theorem isDigit_of_mem_paddedDigits {c : Char} (listed : c ∈ x.paddedDigits) :
    c.isDigit = true := by
  rcases List.mem_append.mp listed with zero | digit
  · rw [(List.mem_replicate.mp zero).2]
    rfl
  · exact Nat.isDigit_of_mem_toDigits (by decide) (by decide) digit

theorem isDigit_of_mem_wholeDigits {c : Char} (listed : c ∈ x.wholeDigits) : c.isDigit = true :=
  x.isDigit_of_mem_paddedDigits (List.mem_of_mem_take listed)

theorem isDigit_of_mem_fractionDigits {c : Char} (listed : c ∈ x.fractionDigits) :
    c.isDigit = true :=
  x.isDigit_of_mem_paddedDigits (List.mem_of_mem_drop listed)

theorem scale_lt_length_paddedDigits : x.scale < x.paddedDigits.length := by
  have some_digit := Nat.length_toDigits_pos (b := 10) (n := x.coefficient)
  simp only [paddedDigits, List.length_append, List.length_replicate]
  omega

theorem wholeDigits_ne_nil : x.wholeDigits ≠ [] := by
  have longer := x.scale_lt_length_paddedDigits
  rw [← List.length_pos_iff, wholeDigits, List.length_take]
  omega

theorem length_fractionDigits : x.fractionDigits.length = x.scale := by
  have longer := x.scale_lt_length_paddedDigits
  rw [fractionDigits, List.length_drop]
  omega

/-- The digits on both sides of the point spell the coefficient. -/
theorem ofDigitChars_fractionDigits :
    Nat.ofDigitChars 10 x.fractionDigits (Nat.ofDigitChars 10 x.wholeDigits 0) =
      x.coefficient := by
  rw [← Nat.ofDigitChars_append, wholeDigits, fractionDigits, List.take_append_drop]
  simp [paddedDigits, Nat.ofDigitChars_append]

theorem ofDigitChars_wholeDigits_lt : Nat.ofDigitChars 10 x.wholeDigits 0 < bound :=
  calc Nat.ofDigitChars 10 x.wholeDigits 0
      ≤ Nat.ofDigitChars 10 x.fractionDigits (Nat.ofDigitChars 10 x.wholeDigits 0) :=
        le_ofDigitChars _ _
    _ = x.coefficient := x.ofDigitChars_fractionDigits
    _ < bound := x.coefficient_lt

theorem run_magnitudeChars : Scan.start.run x.magnitudeChars = .ok (x.coefficient, x.scale) := by
  have whole := Scan.run_append_of_whole .start
    (if x.scale = 0 then [] else '.' :: x.fractionDigits)
    (fun c => x.isDigit_of_mem_wholeDigits) x.wholeDigits_ne_nil rfl x.ofDigitChars_wholeDigits_lt
  have both := x.ofDigitChars_fractionDigits
  have length := x.length_fractionDigits
  rw [magnitudeChars, whole]
  by_cases unscaled : x.scale = 0
  · rw [unscaled, List.length_eq_zero_iff] at length
    rw [length, Nat.ofDigitChars_nil] at both
    rw [if_pos unscaled, Scan.run, unscaled]
    exact congrArg (fun n => Except.ok (n, 0)) both
  · rw [if_neg unscaled, Scan.run]
    have fraction := Scan.run_of_fraction ⟨Nat.ofDigitChars 10 x.wholeDigits 0, 0, true, true⟩
      (fun c => x.isDigit_of_mem_fractionDigits) rfl rfl
      (by rw [length, Nat.zero_add]; exact x.scale_le) (both ▸ x.coefficient_lt)
    rw [both, length, Nat.zero_add] at fraction
    exact fraction

/-- The same amount, where a zero has no sign. -/
def unsignZero : Decimal := if x.isZero then { x with negative := false } else x

theorem toRat_unsignZero : x.unsignZero.toRat = x.toRat := by
  rw [unsignZero]
  split
  · next zero =>
    have none : x.coefficient = 0 := by simpa [isZero] using zero
    simp [toRat, units, none]
  · rfl

/-- The amount with these parts, where a zero has no sign. -/
theorem build?_unsignZero :
    build? (x.negative && x.coefficient != 0) x.coefficient x.scale = some x.unsignZero := by
  rw [build?_eq_some_iff, unsignZero, isZero]
  by_cases zero : x.coefficient = 0
  · simp [zero]
  · simp [zero]

theorem ofChars_of_negative (negative : x.negative = true) :
    ofChars x.chars = .ok x.unsignZero := by
  have built := x.build?_unsignZero
  rw [negative] at built
  rw [chars_eq, if_pos negative]
  simp only [ofChars, List.singleton_append, run_magnitudeChars, Outcome.ok_bind, built]

theorem ofChars_of_not_negative (positive : x.negative = false) :
    ofChars x.chars = .ok x.unsignZero := by
  have built := x.build?_unsignZero
  have scanned := x.run_magnitudeChars
  rw [positive, Bool.false_and] at built
  rw [chars_eq, if_neg (by simp [positive]), List.nil_append]
  cases digits : x.wholeDigits with
  | nil => exact absurd digits x.wholeDigits_ne_nil
  | cons c rest =>
      have digit : c.isDigit = true := x.isDigit_of_mem_wholeDigits (by simp [digits])
      rw [magnitudeChars, digits, List.cons_append] at scanned ⊢
      rw [ofChars_cons digit, scanned, Outcome.ok_bind]
      simp only [built]

/-- Every amount is read back from its text, up to the sign of a zero. -/
theorem ofChars_chars : ofChars x.chars = .ok x.unsignZero := by
  cases sign : x.negative with
  | true => exact x.ofChars_of_negative sign
  | false => exact x.ofChars_of_not_negative sign

end Written

end Decimal

end Payslip
