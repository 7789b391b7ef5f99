/-
# Reading a plain number

A plain number is a run of digits, or two of them with a point in between, of any length. Its
reader refuses what is out of range in front of the point, but behind it keeps as many digits as
there is room for and rounds by the next one, and the carry may lead out of range after all. All of
this comes to one condition on the number that is written, `exists_ofChars_iff`: it lies below the
bound by more than half a unit. Nothing is rounded if the digits and the scale have room
(`ofChars_eq_ok`).
-/

import Payslip.Proofs.Decimal.Text
import Payslip.Proofs.Decimal.Value

namespace Payslip

/-- A run of at least one decimal digit. -/
structure DigitRun (digits : List Char) : Prop where
  nonempty : digits ≠ []
  each : ∀ c ∈ digits, c.isDigit = true

/-- The text is a plain number with these digits in front of the point and behind it. Without a
point there are none behind it. -/
inductive PlainNumber (whole : List Char) : (fraction text : List Char) → Prop
  | whole (digits : DigitRun whole) : PlainNumber whole [] whole
  | point {fraction : List Char} (digits : DigitRun whole) (others : DigitRun fraction) :
      PlainNumber whole fraction (whole ++ '.' :: fraction)

/-- The number that the digits in front of a point and behind it stand for. -/
def writtenNumber (whole fraction : List Char) : ℚ :=
  Nat.ofDigitChars 10 (whole ++ fraction) 0 / 10 ^ fraction.length

/-! ## Digits -/

namespace Text

theorem isDigit_iff {c : Char} : isDigit c = true ↔ c.isDigit = true := by
  constructor
  · intro digit
    rw [isDigit, digit?] at digit
    split at digit
    · next range => simpa [Char.isDigit, Char.le_def] using range
    · cases digit
  · exact isDigit_of_isDigit

/-- The value of a digit is less than ten. -/
theorem digit_lt {c : Char} (digit : c.isDigit = true) : c.toNat - '0'.toNat < 10 := by
  have range := Char.isDigit_iff_toNat.mp digit
  have nine : '9'.toNat = '0'.toNat + 9 := rfl
  omega

end Text

/-- The first digit counts for all that follow it. -/
theorem ofDigitChars_cons_zero (c : Char) (rest : List Char) :
    Nat.ofDigitChars 10 (c :: rest) 0 =
      10 ^ rest.length * (c.toNat - '0'.toNat) + Nat.ofDigitChars 10 rest 0 := by
  rw [Nat.ofDigitChars_cons, Nat.ofDigitChars_eq_ofDigitChars_zero, Nat.mul_zero, Nat.zero_add]

theorem ofDigitChars_lt_pow {digits : List Char} (each : ∀ c ∈ digits, c.isDigit = true) :
    Nat.ofDigitChars 10 digits 0 < 10 ^ digits.length := by
  induction digits with
  | nil => simp
  | cons c rest ih =>
      obtain ⟨first, others⟩ := List.forall_mem_cons.mp each
      have digit := Text.digit_lt first
      have below := ih others
      have most : 10 ^ rest.length * (c.toNat - '0'.toNat) ≤ 10 ^ rest.length * 9 :=
        Nat.mul_le_mul_left _ (by omega)
      rw [ofDigitChars_cons_zero, List.length_cons, pow_succ]
      omega

/-- A fraction is less than one half exactly when its first digit is less than five. -/
theorem fraction_lt_half_iff {c : Char} {rest : List Char}
    (each : ∀ d ∈ c :: rest, d.isDigit = true) :
    2 * Nat.ofDigitChars 10 (c :: rest) 0 < 10 ^ (c :: rest).length ↔
      c.toNat - '0'.toNat < 5 := by
  have below := ofDigitChars_lt_pow (List.forall_mem_cons.mp each).2
  rw [ofDigitChars_cons_zero, List.length_cons, pow_succ]
  constructor
  · intro less
    by_contra more
    have least : 10 ^ rest.length * 5 ≤ 10 ^ rest.length * (c.toNat - '0'.toNat) :=
      Nat.mul_le_mul_left _ (by omega)
    omega
  · intro less
    have most : 10 ^ rest.length * (c.toNat - '0'.toNat) ≤ 10 ^ rest.length * 4 :=
      Nat.mul_le_mul_left _ (by omega)
    omega

/-- A number lies below the bound by more than half a unit if its whole part leaves one more in
range, or is the last one in range and the fraction is less than one half. -/
theorem writtenNumber_lt_iff {whole fraction : List Char}
    (each : ∀ c ∈ fraction, c.isDigit = true) :
    writtenNumber whole fraction < Decimal.bound - 1 / 2 ↔
      Nat.ofDigitChars 10 whole 0 + 1 < Decimal.bound ∨
        Nat.ofDigitChars 10 whole 0 + 1 = Decimal.bound ∧
          2 * Nat.ofDigitChars 10 fraction 0 < 10 ^ fraction.length := by
  have part := ofDigitChars_lt_pow each
  rw [writtenNumber, Nat.ofDigitChars_append, Nat.ofDigitChars_eq_ofDigitChars_zero]
  generalize Nat.ofDigitChars 10 whole 0 = n at *
  generalize Nat.ofDigitChars 10 fraction 0 = m at *
  have power : (0 : ℚ) < 10 ^ fraction.length := by positivity
  have cleared : ((10 ^ fraction.length * n + m : ℕ) : ℚ) / 10 ^ fraction.length <
        Decimal.bound - 1 / 2 ↔
      2 * (10 ^ fraction.length * n + m) + 10 ^ fraction.length <
        2 * (10 ^ fraction.length * Decimal.bound) := by
    rw [div_lt_iff₀ power, ← @Nat.cast_lt ℚ]
    push_cast
    constructor <;> intro less <;> linarith
  rw [cleared]
  generalize 10 ^ fraction.length = unit at *
  constructor
  · intro less
    have below : n < Decimal.bound := by
      by_contra large
      have least := Nat.mul_le_mul_left unit (Nat.not_lt.mp large)
      omega
    rcases Nat.lt_or_eq_of_le below with room | last
    · exact .inl room
    · rw [← last, Nat.mul_succ] at less
      exact .inr ⟨last, by omega⟩
  · rintro (room | ⟨last, half⟩)
    · have least := Nat.mul_le_mul_left unit room
      rw [Nat.mul_succ, Nat.mul_succ] at least
      omega
    · rw [← last, Nat.mul_succ]
      omega

namespace Decimal

namespace Scan

/-- What has been read is in range. -/
def EndsInRange (result : Except TextFault (ℕ × ℕ)) : Prop :=
  ∃ coefficient scale, result = .ok (coefficient, scale) ∧ coefficient < bound ∧ scale ≤ maxScale

/-- In front of the point a number out of range is refused. -/
theorem run_append_of_bound_le {digits : List Char} (seen : Scan) (rest : List Char)
    (each : ∀ c ∈ digits, c.isDigit = true) (whole : seen.pointSeen = false)
    (inRange : seen.coefficient < bound)
    (large : bound ≤ Nat.ofDigitChars 10 digits seen.coefficient) :
    run seen (digits ++ rest) = .error .tooManyDigits := by
  induction digits generalizing seen with
  | nil => exact absurd inRange (Nat.not_lt.mpr large)
  | cons c digits ih =>
      obtain ⟨first, others⟩ := List.forall_mem_cons.mp each
      rw [Nat.ofDigitChars_cons] at large
      rw [List.cons_append]
      by_cases fits : 10 * seen.coefficient + (c.toNat - '0'.toNat) < bound
      · rw [run_cons_of_whole first whole fits]
        exact ih _ others whole fits large
      · rw [run, Text.digit?_of_isDigit first]
        simp only [whole, Nat.mul_comm seen.coefficient 10]
        rw [if_neg (by simp), if_pos (Nat.not_lt.mp fits)]

section RoundOff

variable {seen : Scan} {digit : ℕ} {rest : List Char}

/-- Rounding by the first digit without room leads out of range only from the last number in range
and without a digit after the point. -/
theorem roundOff_endsInRange (each : ∀ c ∈ rest, c.isDigit = true)
    (inRange : seen.coefficient < bound) (inScale : seen.scale ≤ maxScale)
    (safe : seen.coefficient + 1 < bound ∨ digit < 5 ∨ 0 < seen.scale) :
    EndsInRange (seen.roundOff digit rest) := by
  have digits : (rest.all fun c => Text.isDigit c || c == '_') = true := by
    rw [List.all_eq_true]
    intro c listed
    rw [Text.isDigit_of_isDigit (each c listed), Bool.true_or]
  rw [roundOff]
  generalize same : (if 5 ≤ digit then seen.coefficient + 1 else seen.coefficient) = kept
  have most : kept ≤ bound := by
    split at same <;> omega
  rw [if_neg (by split at same <;> omega), if_pos digits]
  split
  · have tenth : (bound + 4) / 10 < bound := by decide
    refine ⟨_, _, rfl, ?_, by omega⟩
    exact lt_of_le_of_lt (Nat.div_le_div_right (by omega)) tenth
  · exact ⟨_, _, rfl, by omega, inScale⟩

theorem roundOff_of_carried (last : seen.coefficient + 1 = bound) (more : 5 ≤ digit)
    (unscaled : seen.scale = 0) : seen.roundOff digit rest = .error .roundedTooLarge := by
  rw [roundOff, if_pos more]
  exact if_pos ⟨last.ge, unscaled⟩

end RoundOff

/-- A digit behind the point for which there is no room is the one to round by. -/
theorem run_cons_of_full {seen : Scan} {c : Char} {rest : List Char} (digit : c.isDigit = true)
    (fraction : seen.pointSeen = true)
    (full : seen.scale = maxScale ∨ bound ≤ 10 * seen.coefficient + (c.toNat - '0'.toNat)) :
    run seen (c :: rest) = seen.roundOff (c.toNat - '0'.toNat) rest := by
  rw [run, Text.digit?_of_isDigit digit]
  simp only [fraction, Nat.mul_comm seen.coefficient 10]
  rw [if_pos trivial, if_pos full]

/-- Behind the first digit of the fraction nothing leads out of range. -/
theorem run_endsInRange_of_fraction {digits : List Char} (seen : Scan)
    (each : ∀ c ∈ digits, c.isDigit = true) (some_digit : seen.digitSeen = true)
    (fraction : seen.pointSeen = true) (inRange : seen.coefficient < bound)
    (inScale : seen.scale ≤ maxScale) (begun : 0 < seen.scale) :
    EndsInRange (run seen digits) := by
  induction digits generalizing seen with
  | nil => exact ⟨seen.coefficient, seen.scale, by simp [run, some_digit], inRange, inScale⟩
  | cons c rest ih =>
      obtain ⟨first, others⟩ := List.forall_mem_cons.mp each
      by_cases full : seen.scale = maxScale ∨
          bound ≤ 10 * seen.coefficient + (c.toNat - '0'.toNat)
      · rw [run_cons_of_full first fraction full]
        exact roundOff_endsInRange others inRange inScale (.inr (.inr begun))
      · rw [run_cons_of_fraction first fraction (by omega) (by omega)]
        exact ih _ others rfl fraction (by dsimp only; omega) (by dsimp only; omega)
          (Nat.succ_pos _)

/-- Right behind the point only half a unit on top of the last number in range leads out of it. -/
theorem run_endsInRange_of_point {whole : ℕ} {c : Char} {rest : List Char}
    (each : ∀ d ∈ c :: rest, d.isDigit = true) (inRange : whole < bound)
    (safe : whole + 1 < bound ∨ c.toNat - '0'.toNat < 5) :
    EndsInRange (run ⟨whole, 0, true, true⟩ (c :: rest)) := by
  obtain ⟨first, others⟩ := List.forall_mem_cons.mp each
  by_cases full : bound ≤ 10 * whole + (c.toNat - '0'.toNat)
  · rw [run_cons_of_full first rfl (.inr full)]
    exact roundOff_endsInRange others inRange (Nat.zero_le _) (safe.imp_right .inl)
  · rw [run_cons_of_fraction first rfl (show 0 < maxScale by decide) (Nat.not_le.mp full)]
    exact run_endsInRange_of_fraction _ others rfl rfl (Nat.not_le.mp full)
      (show 1 ≤ maxScale by decide)
      Nat.one_pos

theorem run_of_carried {whole : ℕ} {c : Char} {rest : List Char} (digit : c.isDigit = true)
    (last : whole + 1 = bound) (more : 5 ≤ c.toNat - '0'.toNat) :
    run ⟨whole, 0, true, true⟩ (c :: rest) = .error .roundedTooLarge := by
  have full : bound ≤ 10 * whole + (c.toNat - '0'.toNat) := by
    unfold bound at last ⊢
    omega
  rw [run_cons_of_full digit rfl (.inr full)]
  exact roundOff_of_carried last more rfl

end Scan

end Decimal

namespace PlainNumber

open Decimal

variable {whole fraction text : List Char}

/-- The digits in front of the point come first. -/
theorem exists_append (plain : PlainNumber whole fraction text) :
    DigitRun whole ∧ (∀ c ∈ fraction, c.isDigit = true) ∧ ∃ rest, text = whole ++ rest := by
  cases plain with
  | whole digits => exact ⟨digits, by simp, [], by simp⟩
  | point digits others => exact ⟨digits, others.each, _, rfl⟩

/-- In range the scan ends in range. -/
theorem run_endsInRange (plain : PlainNumber whole fraction text)
    (inRange : writtenNumber whole fraction < bound - 1 / 2) :
    Scan.EndsInRange (Scan.start.run text) := by
  obtain ⟨digits, each, -⟩ := plain.exists_append
  have room := (writtenNumber_lt_iff each).mp inRange
  have below : Nat.ofDigitChars 10 whole 0 < bound := by omega
  cases plain with
  | whole _ =>
      have scanned := Scan.run_append_of_whole .start [] digits.each digits.nonempty rfl below
      rw [List.append_nil] at scanned
      rw [scanned]
      exact ⟨_, _, rfl, below, Nat.zero_le _⟩
  | point _ others =>
      rw [Scan.run_append_of_whole .start _ digits.each digits.nonempty rfl below]
      cases fraction with
      | nil => exact absurd rfl others.nonempty
      | cons c rest =>
          refine Scan.run_endsInRange_of_point others.each below (room.imp_right ?_)
          rintro ⟨-, half⟩
          exact (fraction_lt_half_iff others.each).mp half

/-- Out of range the scan is refused, in front of the point or when the last digit is rounded. -/
theorem exists_run_eq_error (plain : PlainNumber whole fraction text)
    (outOfRange : bound - 1 / 2 ≤ writtenNumber whole fraction) :
    ∃ fault, Scan.start.run text = .error fault := by
  obtain ⟨digits, each, rest, same⟩ := plain.exists_append
  have full := mt (writtenNumber_lt_iff each).mpr (not_lt.mpr outOfRange)
  rcases Nat.lt_or_ge (Nat.ofDigitChars 10 whole 0) bound with below | large
  · have last : Nat.ofDigitChars 10 whole 0 + 1 = bound := by omega
    cases plain with
    | whole _ => exact absurd (.inr ⟨last, by simp⟩) full
    | point _ others =>
        rw [Scan.run_append_of_whole .start _ digits.each digits.nonempty rfl below]
        cases fraction with
        | nil => exact absurd rfl others.nonempty
        | cons c rest =>
            have more : 5 ≤ c.toNat - '0'.toNat := by
              by_contra less
              exact full (.inr ⟨last, (fraction_lt_half_iff others.each).mpr (Nat.not_le.mp less)⟩)
            exact ⟨_, Scan.run_of_carried (others.each c List.mem_cons_self) last more⟩
  · rw [same]
    exact ⟨_, Scan.run_append_of_bound_le .start rest digits.each rfl bound_pos large⟩

/-- With digits and a scale in range the scan keeps them all. -/
theorem run_eq_ok (plain : PlainNumber whole fraction text)
    (places : fraction.length ≤ maxScale)
    (inRange : Nat.ofDigitChars 10 (whole ++ fraction) 0 < bound) :
    Scan.start.run text =
      .ok (Nat.ofDigitChars 10 (whole ++ fraction) 0, fraction.length) := by
  obtain ⟨digits, -⟩ := plain.exists_append
  rw [Nat.ofDigitChars_append] at inRange ⊢
  have below := lt_of_le_of_lt (le_ofDigitChars fraction _) inRange
  cases plain with
  | whole _ =>
      have scanned := Scan.run_append_of_whole .start [] digits.each digits.nonempty rfl below
      rw [List.append_nil] at scanned
      exact scanned
  | point _ others =>
      rw [Scan.run_append_of_whole .start _ digits.each digits.nonempty rfl below]
      have scanned := Scan.run_of_fraction ⟨Nat.ofDigitChars 10 whole 0, 0, true, true⟩
        others.each rfl rfl (by dsimp only; omega) inRange
      rw [Nat.zero_add] at scanned
      exact scanned

theorem ofChars_eq (plain : PlainNumber whole fraction text) :
    ofChars text = Scan.start.run text >>= fun read =>
      match build? false read.1 read.2 with
      | some x => .ok x
      | none => .error .tooManyDigits := by
  obtain ⟨digits, -, rest, same⟩ := plain.exists_append
  cases front : whole with
  | nil => exact absurd front digits.nonempty
  | cons c others =>
      rw [same, front]
      exact ofChars_cons (digits.each c (by simp [front]))

/-- A plain number has no sign. -/
theorem negative_of_ofChars (plain : PlainNumber whole fraction text) {x : Decimal}
    (read : ofChars text = .ok x) : x.negative = false := by
  rw [plain.ofChars_eq] at read
  obtain ⟨⟨coefficient, scale⟩, -, made⟩ := Outcome.bind_eq_ok_iff.mp read
  dsimp only at made
  split at made
  · next built =>
    cases made
    exact (build?_eq_some_iff.mp built).1
  · cases made

/-- Whether a plain number is read depends on nothing but the number that is written. -/
theorem exists_ofChars_iff (plain : PlainNumber whole fraction text) :
    (∃ x, ofChars text = .ok x) ↔ writtenNumber whole fraction < bound - 1 / 2 := by
  rw [plain.ofChars_eq]
  constructor
  · rintro ⟨x, read⟩
    by_contra outOfRange
    obtain ⟨fault, scanned⟩ := plain.exists_run_eq_error (not_lt.mp outOfRange)
    rw [scanned] at read
    cases read
  · intro inRange
    obtain ⟨coefficient, scale, scanned, below, places⟩ := plain.run_endsInRange inRange
    refine ⟨⟨false, coefficient, scale, below, places⟩, ?_⟩
    have built := build?_eq_some_iff (x := ⟨false, coefficient, scale, below, places⟩).mpr
      ⟨rfl, rfl, rfl⟩
    rw [scanned, Outcome.ok_bind]
    simp only [built]

/-- With digits and a scale in range the amount has all the digits that are written. -/
theorem ofChars_eq_ok (plain : PlainNumber whole fraction text)
    (places : fraction.length ≤ maxScale)
    (inRange : Nat.ofDigitChars 10 (whole ++ fraction) 0 < bound) :
    ofChars text = .ok
      ⟨false, Nat.ofDigitChars 10 (whole ++ fraction) 0, fraction.length, inRange, places⟩ := by
  have built := build?_eq_some_iff
    (x := ⟨false, Nat.ofDigitChars 10 (whole ++ fraction) 0, fraction.length, inRange, places⟩).mpr
    ⟨rfl, rfl, rfl⟩
  rw [plain.ofChars_eq, plain.run_eq_ok places inRange, Outcome.ok_bind]
  simp only [built]

/-- So it is the number that is written. -/
theorem toRat_of_ofChars (plain : PlainNumber whole fraction text)
    (places : fraction.length ≤ maxScale)
    (inRange : Nat.ofDigitChars 10 (whole ++ fraction) 0 < bound) {x : Decimal}
    (read : ofChars text = .ok x) :
    x.scale = fraction.length ∧ x.toRat = writtenNumber whole fraction := by
  cases read.symm.trans (plain.ofChars_eq_ok places inRange)
  refine ⟨rfl, ?_⟩
  rw [toRat_eq, writtenNumber, tenPow_eq_pow]
  simp [signed]

end PlainNumber

end Payslip
