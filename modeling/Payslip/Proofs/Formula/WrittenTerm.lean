/-
# Which terms survive being written

A written term packs a percentage and a reference into one text. This module says for
every term, whether or not a reader could have produced it, when its written form reads
back and as what: `ofWritten_written` leaves out nothing but references without a text
and percentages below zero. The reference may hold percent signs of its own, since only
the first one divides the text and the percentage has none.
-/

import Mathlib.Data.List.TakeWhile
import Payslip.Formula.WrittenTerm
import Payslip.Proofs.Decimal.PlainNumber

namespace Payslip

namespace Decimal

/-! ## The text of a percentage -/

variable {x : Decimal}

theorem chars_of_not_negative (positive : x.negative = false) : x.chars = x.magnitudeChars := by
  rw [chars_eq, if_neg (by simp [positive]), List.nil_append]

theorem unsignZero_of_not_negative (positive : x.negative = false) : x.unsignZero = x := by
  rw [unsignZero]
  split
  · rw [← positive]
  · rfl

theorem mem_magnitudeChars {c : Char} (listed : c ∈ x.magnitudeChars) :
    c.isDigit = true ∨ c = '.' := by
  rw [magnitudeChars] at listed
  rcases List.mem_append.mp listed with whole | rest
  · exact .inl (x.isDigit_of_mem_wholeDigits whole)
  · split at rest
    · cases rest
    · rcases List.mem_cons.mp rest with point | fraction
      · exact .inr point
      · exact .inl (x.isDigit_of_mem_fractionDigits fraction)

theorem not_mem_percent_chars : '%' ∉ x.chars := by
  rw [chars_eq, List.mem_append, not_or]
  constructor
  · split <;> decide
  · intro listed
    rcases mem_magnitudeChars listed with digit | point
    · cases digit
    · exact absurd point (by decide)

end Decimal

/-! ## Plain numbers -/

theorem isDigits_iff {text : List Char} : isDigits text = true ↔ DigitRun text := by
  rw [isDigits, Bool.and_eq_true, List.all_eq_true]
  constructor
  · rintro ⟨nonempty, each⟩
    exact ⟨by simpa using nonempty, fun c listed => Text.isDigit_iff.mp (each c listed)⟩
  · rintro ⟨nonempty, each⟩
    exact ⟨by simpa using nonempty, fun c listed => Text.isDigit_iff.mpr (each c listed)⟩

namespace PlainNumber

variable {whole fraction text : List Char}

theorem isPlainNumber (plain : PlainNumber whole fraction text) : isPlainNumber text = true := by
  have undivided (digits : DigitRun whole) : ∀ c ∈ whole, (c != '.') = true := by
    intro c listed
    simpa using Text.ne_of_isDigit (digits.each c listed) (d := '.') rfl
  rw [Payslip.isPlainNumber, List.span_eq_takeWhile_dropWhile]
  cases plain with
  | whole digits =>
      rw [List.takeWhile_eq_self_iff.mpr (undivided digits),
        List.dropWhile_eq_nil_iff.mpr (undivided digits)]
      simpa using isDigits_iff.mpr digits
  | point digits others =>
      rw [List.takeWhile_append_of_pos (undivided digits),
        List.dropWhile_append_of_pos (undivided digits)]
      simpa using ⟨isDigits_iff.mpr digits, isDigits_iff.mpr others⟩

theorem exists_of_isPlainNumber (plain : Payslip.isPlainNumber text = true) :
    ∃ whole fraction, PlainNumber whole fraction text := by
  rw [Payslip.isPlainNumber, List.span_eq_takeWhile_dropWhile] at plain
  have parts := List.takeWhile_append_dropWhile (p := (· != '.')) (l := text)
  split at plain
  · next whole same =>
    obtain ⟨taken, dropped⟩ := Prod.mk.inj same
    rw [taken, dropped, List.append_nil] at parts
    exact ⟨whole, [], parts ▸ .whole (isDigits_iff.mp plain)⟩
  · next whole point fraction same =>
    obtain ⟨taken, dropped⟩ := Prod.mk.inj same
    have stop : point = '.' := by
      have refused := List.head_dropWhile_not (p := (· != '.')) (l := text) (by simp [dropped])
      simpa [dropped] using refused
    rw [taken, dropped, stop] at parts
    obtain ⟨digits, others⟩ := Bool.and_eq_true_iff.mp plain
    exact ⟨whole, fraction, parts ▸ .point (isDigits_iff.mp digits) (isDigits_iff.mp others)⟩

end PlainNumber

/-- An amount without its sign is written as a plain number. -/
theorem isPlainNumber_magnitudeChars (x : Decimal) : isPlainNumber x.magnitudeChars = true := by
  have digits : DigitRun x.wholeDigits :=
    ⟨x.wholeDigits_ne_nil, fun c => x.isDigit_of_mem_wholeDigits⟩
  rw [Decimal.magnitudeChars]
  split
  · rw [List.append_nil]
    exact (PlainNumber.whole digits).isPlainNumber
  · next scaled =>
    have nonempty : x.fractionDigits ≠ [] := by
      rw [← List.length_pos_iff, x.length_fractionDigits]
      omega
    exact (PlainNumber.point digits
      ⟨nonempty, fun c => x.isDigit_of_mem_fractionDigits⟩).isPlainNumber

theorem isPlainNumber_cons_minus (text : List Char) : isPlainNumber ('-' :: text) = false := by
  rw [isPlainNumber, List.span_eq_takeWhile_dropWhile]
  have sign : isDigits (('-' :: text).takeWhile (· != '.')) = false := by
    simp [isDigits, Text.isDigit, Text.digit?]
  split
  · next whole same => rw [← (Prod.mk.inj same).1, sign]
  · next whole point fraction same => rw [← (Prod.mk.inj same).1, sign, Bool.false_and]

namespace Term

/-! ## Unpacking a percentage -/

/-- A text without a percent sign in front of the first one is the percentage, and all that follows
is the reference. -/
theorem readPercentage_append {percent : List Char} (undivided : '%' ∉ percent)
    (reference : String) :
    readPercentage (String.ofList percent ++ "%" ++ reference) =
      if !isPlainNumber percent then
        .error ⟨String.ofList percent ++ "%" ++ reference, .notPlainNumber⟩
      else if reference.toList.isEmpty then
        .error ⟨String.ofList percent ++ "%" ++ reference, .nothingReferenced⟩
      else
        match Decimal.ofChars percent with
        | .ok percent => .ok (.percentage percent (.ofText reference))
        | .error fault =>
          .error ⟨String.ofList percent ++ "%" ++ reference, .outOfRange fault⟩ := by
  have divided : (String.ofList percent ++ "%" ++ reference).toList.span (· != '%') =
      (percent, '%' :: reference.toList) := by
    have front : ∀ c ∈ percent, (c != '%') = true := by
      intro c listed
      simpa using ne_of_mem_of_not_mem listed undivided
    rw [List.span_eq_takeWhile_dropWhile]
    simp [List.takeWhile_append_of_pos front, List.dropWhile_append_of_pos front]
  rw [readPercentage, divided]
  cases read : Decimal.ofChars percent with
  | ok value => simp only [String.ofList_toList, read]
  | error fault => simp only [read]

theorem ofWritten_written_percentage (percent : Decimal) (reference : Reference) :
    ofWritten (Term.percentage percent reference).written =
      if percent.isNegative then
        .error ⟨percent.normalize.render ++ "%" ++ reference.text, .notPlainNumber⟩
      else if reference.text = "" then
        .error ⟨percent.normalize.render ++ "%" ++ reference.text, .nothingReferenced⟩
      else .ok (.percentage percent.normalize (.ofText reference.text)) := by
  show readPercentage (percent.normalize.render ++ "%" ++ reference.text) = _
  rw [Decimal.render, readPercentage_append Decimal.not_mem_percent_chars]
  have sign := percent.negative_normalize
  cases below : percent.isNegative with
  | true =>
      rw [below] at sign
      rw [Decimal.chars_eq, sign, if_pos rfl, List.singleton_append, isPlainNumber_cons_minus]
      rfl
  | false =>
      rw [below] at sign
      have reread := percent.normalize.ofChars_chars
      rw [Decimal.unsignZero_of_not_negative sign] at reread
      have plain := isPlainNumber_magnitudeChars percent.normalize
      rw [← Decimal.chars_of_not_negative sign] at plain
      rw [reread, plain]
      by_cases empty : reference.text = ""
      · simp [empty]
      · simp [empty]

/-! ## Reading back -/

/-- The terms whose written form reads back: references need a text, percentages a sign that can be
written. -/
def IsReadable : Term → Prop
  | .operator _ => True
  | .value reference => reference.text ≠ ""
  | .percentage percent reference => reference.text ≠ "" ∧ 0 ≤ percent.toRat

/-- What a term is read back as: an operator as itself, a reference by its text, so that `ctc`
stands for the cost to company, and a percentage as the same number. -/
def ReadsAs : Term → Term → Prop
  | .operator op, .operator again => again = op
  | .value reference, .value again => again = .ofText reference.text
  | .percentage percent reference, .percentage percentAgain again =>
    percentAgain.toRat = percent.toRat ∧ again = .ofText reference.text
  | _, _ => False

/-- A readable term is read back, as what it reads as. -/
theorem exists_readsAs_of_isReadable {term : Term} (readable : term.IsReadable) :
    ∃ again, ofWritten term.written = .ok again ∧ term.ReadsAs again := by
  cases term with
  | operator op =>
      refine ⟨.operator op, ?_, rfl⟩
      simp [written, ofWritten, readOperator, Except.map]
  | value reference =>
      refine ⟨.value (.ofText reference.text), ?_, rfl⟩
      have nonempty : reference.text ≠ "" := readable
      simp [written, ofWritten, nonempty]
  | percentage percent reference =>
      obtain ⟨nonempty, nonneg⟩ := readable
      refine ⟨.percentage percent.normalize (.ofText reference.text), ?_, ?_, rfl⟩
      · rw [ofWritten_written_percentage, Decimal.toRat_nonneg_iff.mp nonneg, if_neg (by decide),
          if_neg nonempty]
      · exact percent.toRat_normalize

theorem isReadable_of_ofWritten_eq_ok {term again : Term}
    (reread : ofWritten term.written = .ok again) : term.IsReadable := by
  cases term with
  | operator op => trivial
  | value reference =>
      intro empty
      simp [written, ofWritten, empty] at reread
  | percentage percent reference =>
      rw [ofWritten_written_percentage] at reread
      by_cases below : percent.isNegative = true
      · rw [if_pos below] at reread
        cases reread
      · rw [if_neg below] at reread
        by_cases empty : reference.text = ""
        · rw [if_pos empty] at reread
          cases reread
        · exact ⟨empty, Decimal.toRat_nonneg_iff.mpr (by simpa using below)⟩

/-- Whatever the term, its written form reads back exactly when it is an operator or its reference
has a text and, for a percentage, it is not below zero. It is then read as the same term, with the
same number for the percentage and with the cost to company for a reference whose text stands for
it. -/
theorem ofWritten_written (term : Term) :
    ((∃ again, ofWritten term.written = .ok again) ↔ term.IsReadable) ∧
      ∀ again, ofWritten term.written = .ok again → term.ReadsAs again := by
  refine ⟨⟨?_, ?_⟩, ?_⟩
  · rintro ⟨again, reread⟩
    exact isReadable_of_ofWritten_eq_ok reread
  · intro readable
    obtain ⟨again, reread, -⟩ := exists_readsAs_of_isReadable readable
    exact ⟨again, reread⟩
  · intro again reread
    obtain ⟨other, same, reads⟩ :=
      exists_readsAs_of_isReadable (isReadable_of_ofWritten_eq_ok reread)
    cases reread.symm.trans same
    exact reads

/-- A percentage with a zero that it does not need, of a component with a percent sign in its id. -/
theorem ofWritten_written_packedSigns :
    ofWritten (Term.percentage (.mk false 1250 2) (.component "50%ctc")).written =
        .ok (.percentage (.mk false 125 1) (.component "50%ctc")) ∧
      (Term.percentage (.mk false 1250 2) (.component "50%ctc")).ReadsAs
        (.percentage (.mk false 125 1) (.component "50%ctc")) := by
  have reread : ofWritten (Term.percentage (.mk false 1250 2) (.component "50%ctc")).written =
      .ok (.percentage (.mk false 125 1) (.component "50%ctc")) :=
    Outcome.eq_ok_of_toOption_eq_some (by decide +kernel)
  exact ⟨reread, (ofWritten_written _).2 _ reread⟩

end Term

end Payslip
