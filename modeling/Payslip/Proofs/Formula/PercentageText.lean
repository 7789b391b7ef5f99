/-
# Which texts are percentages

Three readers in a row decide whether a text is a percentage: the text is divided at its first
percent sign, what stands before it has to be a plain number, and the reader of amounts has a range
of its own. `ofWritten_percentage` gives the three as one condition on the text, `PercentageText`.
It names the parts of the text instead of taking it apart: since a plain number holds no percent
sign, the one that follows it is the first.
-/

import Payslip.Proofs.Formula.WrittenTerm

namespace Payslip

/-- The text consists of a plain number with these digits in front of the point and behind it, a
percent sign, and this reference, which may hold percent signs of its own. The number is below the
bound of coefficients by more than half a unit. -/
structure PercentageText (value : String) (whole fraction : List Char) (reference : String) :
    Prop where
  packed : ∃ number, PlainNumber whole fraction number ∧
    value = String.ofList number ++ "%" ++ reference
  nonempty : reference ≠ ""
  inRange : writtenNumber whole fraction < 2 ^ 96 - 1 / 2

theorem Decimal.bound_cast : (bound : ℚ) = 2 ^ 96 := by norm_num [bound]

namespace PlainNumber

variable {whole fraction text : List Char}

/-- So the percent sign behind a plain number is the first one of the text. -/
theorem not_mem_percent (plain : PlainNumber whole fraction text) : '%' ∉ text := by
  have undivided {digits : List Char} (run : DigitRun digits) : '%' ∉ digits := by
    intro listed
    cases run.each '%' listed
  cases plain with
  | whole digits => exact undivided digits
  | point digits others =>
      rw [List.mem_append, List.mem_cons, not_or, not_or]
      exact ⟨undivided digits, by decide, undivided others⟩

end PlainNumber

namespace Term

variable {value reference : String} {whole fraction : List Char}

theorem exists_append_of_mem_percent (divided : '%' ∈ value.toList) :
    ∃ percent reference, '%' ∉ percent ∧ value = String.ofList percent ++ "%" ++ reference := by
  obtain ⟨percent, reference, same, undivided⟩ := List.eq_append_cons_of_mem divided
  refine ⟨percent, String.ofList reference, undivided, ?_⟩
  rw [← String.toList_inj, same]
  simp

theorem readPercentage_of_not_mem_percent (undivided : '%' ∉ value.toList) :
    readPercentage value = .error ⟨value, .noPercentSign⟩ := by
  have none : value.toList.dropWhile (· != '%') = [] := by
    rw [List.dropWhile_eq_nil_iff]
    intro c listed
    simpa using ne_of_mem_of_not_mem listed undivided
  rw [readPercentage, List.span_eq_takeWhile_dropWhile, none]

/-- A percentage text is read, with its reference and with the percentage that its number is read
as. -/
theorem exists_readPercentage (text : PercentageText value whole fraction reference) :
    ∃ percent, readPercentage value = .ok (.percentage percent (.ofText reference)) ∧
      percent.negative = false ∧
      (fraction.length ≤ Decimal.maxScale →
        Nat.ofDigitChars 10 (whole ++ fraction) 0 < Decimal.bound →
          percent.scale = fraction.length ∧ percent.toRat = writtenNumber whole fraction) := by
  obtain ⟨⟨number, plain, rfl⟩, nonempty, inRange⟩ := text
  obtain ⟨percent, read⟩ := plain.exists_ofChars_iff.mpr (Decimal.bound_cast ▸ inRange)
  refine ⟨percent, ?_, plain.negative_of_ofChars read,
    fun places digits => plain.toRat_of_ofChars places digits read⟩
  rw [readPercentage_append plain.not_mem_percent, plain.isPlainNumber, read]
  simp [nonempty]

/-- What is read is a percentage text. -/
theorem exists_percentageText {term : Term} (read : readPercentage value = .ok term) :
    ∃ whole fraction reference, PercentageText value whole fraction reference := by
  by_cases divided : '%' ∈ value.toList
  · obtain ⟨number, reference, undivided, rfl⟩ := exists_append_of_mem_percent divided
    rw [readPercentage_append undivided] at read
    cases shape : isPlainNumber number with
    | false =>
        rw [shape] at read
        cases read
    | true =>
        obtain ⟨whole, fraction, plain⟩ := PlainNumber.exists_of_isPlainNumber shape
        by_cases nonempty : reference = ""
        · simp [shape, nonempty] at read
        · refine ⟨whole, fraction, reference, ⟨number, plain, rfl⟩, nonempty, ?_⟩
          rw [← Decimal.bound_cast, ← plain.exists_ofChars_iff]
          cases amount : Decimal.ofChars number with
          | ok percent => exact ⟨percent, rfl⟩
          | error fault => simp [shape, nonempty, amount] at read
  · rw [readPercentage_of_not_mem_percent divided] at read
    cases read

/-- A refused text is handed back with the reason. -/
theorem value_of_readPercentage_eq_error {error : TermError}
    (refused : readPercentage value = .error error) : error.value = value := by
  rw [readPercentage] at refused
  split at refused
  · cases refused
    rfl
  · split at refused
    · cases refused
      rfl
    · split at refused
      · cases refused
        rfl
      · split at refused
        · cases refused
        · cases refused
          rfl

/-- Whatever the text, a written percentage is read exactly when it is a percentage text. The term
refers to all that follows the first percent sign, where `ctc` stands for the cost to company, and
its percentage is the number that is written, with as many digits after the point, provided that
there is room for all of them. Any other text is refused and handed back. -/
theorem ofWritten_percentage (value : String) :
    ((∃ term, ofWritten ⟨.percentage, value⟩ = .ok term) ↔
        ∃ whole fraction reference, PercentageText value whole fraction reference) ∧
      (∀ whole fraction reference, PercentageText value whole fraction reference →
        ∃ percent,
          ofWritten ⟨.percentage, value⟩ =
              .ok (.percentage percent
                (if reference = "ctc" then .ctc else .component reference)) ∧
            percent.negative = false ∧
            (fraction.length ≤ 28 → Nat.ofDigitChars 10 (whole ++ fraction) 0 < 2 ^ 96 →
              percent.scale = fraction.length ∧ percent.toRat = writtenNumber whole fraction)) ∧
      ((¬ ∃ whole fraction reference, PercentageText value whole fraction reference) →
        ∃ fault, ofWritten ⟨.percentage, value⟩ = .error ⟨value, fault⟩) := by
  have read : ofWritten ⟨.percentage, value⟩ = readPercentage value := rfl
  rw [read]
  refine ⟨⟨?_, ?_⟩, ?_, ?_⟩
  · rintro ⟨term, read⟩
    exact exists_percentageText read
  · rintro ⟨whole, fraction, reference, text⟩
    obtain ⟨percent, read, -⟩ := exists_readPercentage text
    exact ⟨_, read⟩
  · intro whole fraction reference text
    exact exists_readPercentage text
  · intro other
    cases refused : readPercentage value with
    | ok term => exact absurd (exists_percentageText refused) other
    | error error =>
        exact ⟨error.fault, by rw [← value_of_readPercentage_eq_error refused]⟩

/-- The reference keeps the other percent sign and the percentage the zero at its end. Half a unit
below the bound is refused, and a little less is not. -/
theorem ofWritten_percentage_edges :
    (∃ percent,
      ofWritten ⟨.percentage, "60.50%50%basic"⟩ =
          .ok (.percentage percent (.component "50%basic")) ∧
        percent.negative = false ∧ percent.scale = 2 ∧ percent.toRat = 121 / 2) ∧
      (∃ percent,
        ofWritten ⟨.percentage, "79228162514264337593543950335.49%ctc"⟩ =
          .ok (.percentage percent .ctc)) ∧
      ∃ fault,
        ofWritten ⟨.percentage, "79228162514264337593543950335.5%ctc"⟩ =
          .error ⟨"79228162514264337593543950335.5%ctc", fault⟩ := by
  have digits (text : String) (run : isDigits text.toList = true) : DigitRun text.toList :=
    isDigits_iff.mp run
  refine ⟨?_, ?_, ?_⟩
  · have text : PercentageText "60.50%50%basic" "60".toList "50".toList "50%basic" :=
      { packed := ⟨_, .point (digits "60" rfl) (digits "50" rfl), rfl⟩
        nonempty := by decide
        inRange := by
          rw [← Decimal.bound_cast, writtenNumber_lt_iff (digits "50" rfl).each]
          decide +kernel }
    obtain ⟨percent, read, sign, exactly⟩ := (ofWritten_percentage _).2.1 _ _ _ text
    obtain ⟨scale, number⟩ := exactly (by decide) (by decide +kernel)
    refine ⟨percent, read, sign, scale, number.trans ?_⟩
    have coefficient : Nat.ofDigitChars 10 ("60".toList ++ "50".toList) 0 = 6050 := by
      decide +kernel
    have places : "50".toList.length = 2 := rfl
    rw [writtenNumber, coefficient, places]
    norm_num
  · have text : PercentageText "79228162514264337593543950335.49%ctc"
        "79228162514264337593543950335".toList "49".toList "ctc" :=
      { packed := ⟨_, .point (digits "79228162514264337593543950335" rfl) (digits "49" rfl), rfl⟩
        nonempty := by decide
        inRange := by
          rw [← Decimal.bound_cast, writtenNumber_lt_iff (digits "49" rfl).each]
          decide +kernel }
    obtain ⟨percent, read, -⟩ := (ofWritten_percentage _).2.1 _ _ _ text
    exact ⟨percent, read⟩
  · refine (ofWritten_percentage _).2.2 fun text => ?_
    obtain ⟨term, read⟩ := (ofWritten_percentage _).1.mpr text
    have refused : (ofWritten ⟨.percentage, "79228162514264337593543950335.5%ctc"⟩).toOption =
        none := by decide +kernel
    rw [read] at refused
    cases refused

end Term

end Payslip
