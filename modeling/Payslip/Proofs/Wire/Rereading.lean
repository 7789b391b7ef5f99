/-
# Reading back what has been written

The reader and the writer of the library are no mirror images. Reading takes plurals,
numbers in place of texts and lists in place of maps, and puts defaults for what is left
out; writing uses one form of each and leaves out terms where there are none. So a text is
seldom written back as it was. But what was read from it is: `rereads` says that the value
survives, equal in everything but the representation of its numbers.

Not every value of these types would survive. The reader never makes a reference to a
component out of the text that stands for the cost to company, nor a percentage below zero
in a formula, and only because of that can such values be written without loss.
-/

import Payslip.Proofs.Alike
import Payslip.Proofs.Formula.PercentageText
import Payslip.Proofs.Json.Reparsing
import Payslip.Proofs.Reading.Record
import Payslip.Wire.Breakdown
import Payslip.Wire.Component
import Payslip.Wire.Employee

namespace Payslip

open Payslip.Text Payslip.Reading Payslip.Json

/-! ## Numbers and texts -/

namespace Number

/-- Digits are appended to a word for as long as they spell one. -/
theorem fillWord_eq {digits : List Char} {word : Nat}
    (inRange : Nat.ofDigitChars 10 digits word < wordBound) :
    fillWord word digits = (Nat.ofDigitChars 10 digits word, 0) := by
  induction digits generalizing word with
  | nil => rfl
  | cons c rest ih =>
      rw [Nat.ofDigitChars_cons] at inRange ⊢
      have next := Nat.lt_of_le_of_lt (Decimal.le_ofDigitChars rest _) inRange
      rw [Nat.mul_comm 10 word] at next inRange ⊢
      rw [fillWord, if_pos next, ih inRange]

theorem value?_ofInt {n : Int} (low : -signedBound ≤ n) (high : n < wordBound) :
    value? ⟨n < 0, Nat.toDigits 10 n.natAbs, none, none⟩ = some (.whole n) := by
  have inRange : Nat.ofDigitChars 10 (Nat.toDigits 10 n.natAbs) 0 < wordBound := by
    rw [Nat.ofDigitChars_ten_toDigits]
    unfold signedBound at low
    unfold wordBound at high ⊢
    omega
  have filled := fillWord_eq inRange
  rw [Nat.ofDigitChars_ten_toDigits] at filled
  simp only [value?, filled, Option.isNone_none, Bool.true_and, beq_self_eq_true]
  by_cases negative : n < 0
  · have word : n.natAbs ≤ signedBound := by omega
    have nonzero : (n.natAbs != 0) = true := by simpa using by omega
    have back : -(n.natAbs : Int) = n := by omega
    simp [negative, nonzero, word, back, -Nat.cast_natAbs]
  · have back : (n.natAbs : Int) = n := by omega
    simp [negative, back, -Nat.cast_natAbs]

end Number

namespace Reading.Reader

theorem whole_ofInt {low high n : Int} (above : low ≤ n) (below : n ≤ high)
    (signed : -Number.signedBound ≤ n) (word : n < Number.wordBound) :
    whole low high (.ofInt n) = .ok n := by
  simp [whole, Document.ofInt, Number.value?_ofInt signed word, above, below]

theorem word_ofInt (n : UInt32) : word (.ofInt n.toNat) = .ok n := by
  have small : n.toNat < UInt32.size := n.toNat_lt
  have read : whole 0 (UInt32.size - 1) (.ofInt n.toNat) = .ok (n.toNat : Int) := by
    apply whole_ofInt
    · omega
    · omega
    · unfold Number.signedBound
      omega
    · unfold UInt32.size at small
      unfold Number.wordBound
      omega
  rw [word, read]
  simp [Except.map]

theorem signed_ofInt {n : Int} (low : -Number.signedBound ≤ n) (high : n < Number.signedBound) :
    signed (.ofInt n) = .ok n := by
  apply whole_ofInt low (by omega) low
  unfold Number.signedBound at high
  unfold Number.wordBound
  omega

theorem range_of_whole_eq_ok {low high n : Int} {document : Document}
    (read : whole low high document = .ok n) : low ≤ n ∧ n ≤ high := by
  rw [whole.eq_def] at read
  split at read
  · split at read
    · cases read
    · cases read
    · split at read
      · next inRange =>
        cases read
        exact inRange
      · cases read
  · split at read
    · cases read
    · split at read
      · next inRange =>
        cases read
        exact inRange
      · cases read
  · cases read

/-- An amount is read back from its text, up to the sign of a zero. -/
theorem amount_document (x : Decimal) : amount x.document = .ok x.unsignZero := by
  have reread : Decimal.ofText x.render = .ok x.unsignZero := by
    rw [Decimal.ofText, Decimal.render, String.toList_ofList, Decimal.ofChars_chars]
  simp [amount, Decimal.document, Document.ofText, amountOfText, Decimal.parse?, reread]

theorem optional_text_optionalText (value : Option String) :
    text.optional (optionalText value) = .ok value := by
  cases value <;> rfl

theorem choice_kind (kind : Component.Kind) :
    choice Component.Kind.choices (.ofText kind.name) = .ok kind := by
  cases kind <;> rfl

theorem choice_category (category : Component.Category) :
    choice Component.Category.choices (.ofText category.name) = .ok category := by
  cases category <;> rfl

theorem choice_termKind (kind : TermKind) :
    choice TermKind.choices (.ofText kind.name) = .ok kind := by
  cases kind <;> rfl

end Reading.Reader

/-! ## Terms -/

/-- What a text refers to has that text. -/
def Reference.IsOfText (reference : Reference) : Prop := .ofText reference.text = reference

theorem Reference.isOfText_ofText (text : String) : (Reference.ofText text).IsOfText := by
  rw [IsOfText, text_ofText]

namespace Term

/-- The term refers to nothing, or to what a text stands for. -/
def IsOfText (term : Term) : Prop :=
  ∀ reference, term.reference? = some reference → reference.IsOfText

theorem isReadable_of_readPercentage {value : String} {term : Term}
    (read : readPercentage value = .ok term) : term.IsReadable ∧ term.IsOfText := by
  obtain ⟨whole, fraction, reference, text⟩ := exists_percentageText read
  obtain ⟨percent, made, sign, -⟩ := exists_readPercentage text
  cases read.symm.trans made
  refine ⟨⟨by simpa using text.nonempty, ?_⟩, fun reference same => ?_⟩
  · rw [Decimal.toRat_nonneg_iff, Decimal.isNegative, sign, Bool.false_and]
  · cases same
    exact Reference.isOfText_ofText _

/-- The reader makes no other terms than those that are read back. -/
theorem isReadable_of_ofWritten {written : WrittenTerm} {term : Term}
    (read : ofWritten written = .ok term) : term.IsReadable ∧ term.IsOfText := by
  rw [ofWritten] at read
  split at read
  · obtain ⟨op, -, rfl⟩ := Outcome.map_eq_ok_iff.mp read
    exact ⟨trivial, fun _ none => by cases none⟩
  · split at read
    · cases read
    · next text =>
      cases read
      refine ⟨by simpa [IsReadable] using text, fun reference same => ?_⟩
      cases same
      exact Reference.isOfText_ofText _
  · exact isReadable_of_readPercentage read

theorem ReadsAs.alike {term again : Term} (reads : term.ReadsAs again) (ofText : term.IsOfText) :
    term.Alike again := by
  unfold ReadsAs at reads
  split at reads
  · cases reads
    exact .operator _
  · next reference again =>
    cases reads.trans (ofText reference rfl)
    exact .value reference
  · next percent reference percentAgain again =>
    obtain ⟨same, text⟩ := reads
    cases text.trans (ofText reference rfl)
    exact .percentage same reference
  · cases reads

theorem exists_alike_of_ofWritten {written : WrittenTerm} {term : Term}
    (read : ofWritten written = .ok term) :
    ∃ again, ofWritten term.written = .ok again ∧ term.Alike again := by
  obtain ⟨readable, ofText⟩ := isReadable_of_ofWritten read
  obtain ⟨again, reread, reads⟩ := exists_readsAs_of_isReadable readable
  exact ⟨again, reread, reads.alike ofText⟩

end Term

/-! ## Documents -/

namespace Json.Writable

attribute [simp] null bool ofInt ofText

theorem amount (x : Decimal) : Writable x.document := .ofText x.render

theorem optionalText (value : Option String) : Writable (optionalText value) := by
  cases value with
  | none => exact .null
  | some text => exact .ofText text

theorem term (term : Term) : Writable term.document :=
  .ofFields (by simp)

theorem list {α : Type} {document : α → Document} (each : ∀ value, Writable (document value))
    (values : List α) : Writable (.ofList (values.map document)) := by
  refine .ofList fun item listed => ?_
  obtain ⟨value, -, rfl⟩ := List.mem_map.mp listed
  exact each value

theorem component (component : Component) : Writable component.document := by
  refine .ofFields ?_
  by_cases none : component.terms.isEmpty = true
  · simp [none, amount]
  · simp [none, amount, list term]

theorem employee (employee : Employee) : Writable employee.document :=
  .ofFields (by simp [amount, optionalText])

theorem salaryStructure (salaryStructure : SalaryStructure) :
    Writable salaryStructure.document :=
  .ofFields (by simp [list ofText])

theorem lineItem (item : LineItem) : Writable item.document :=
  .ofFields (by simp [amount])

theorem breakdown (breakdown : Breakdown) : Writable breakdown.document :=
  .ofFields (by simp [amount, list lineItem])

end Json.Writable

/-! ## Reading back -/

open RecordReader (Answers)

namespace Term

theorem read_document (term : Term) :
    WrittenTerm.record.read term.document = .ok term.written := by
  have answers : WrittenTerm.record.Answers
      [("type", .ofText term.written.kind.name), ("value", .ofText term.written.value)]
      term.written :=
    .seq (.map WrittenTerm.mk (.field rfl (Reader.choice_termKind _))) (.field rfl rfl)
  exact RecordReader.read_ofFields answers (by simp) (by simp [WrittenTerm.record])

end Term

namespace Component

/-- The fields of a written component, with what is written of its terms. -/
def fields (component : Component) (written : Fields) : Fields :=
  [("id", .ofText component.id), ("name", .ofText component.name),
    ("component_type", .ofText component.kind.name),
    ("component_category", .ofText component.category.name),
    ("amount", component.amount.document), ("based_on", .ofText component.basedOn.text)] ++
  written ++ [("apply_lop_deduction", .bool component.prorated)]

/-- What a written component is read back as when its terms are read back as the given ones. -/
def reread (component : Component) (terms : List Term) : Component :=
  { component with
    amount := component.amount.unsignZero
    basedOn := .ofText component.basedOn.text
    terms }

theorem record_answers (component : Component) (written : Fields) {terms : List Term}
    (given : (RecordReader.defaulted "formula_terms" Term.readAll []).Answers
      (component.fields written) terms)
    (last : (component.fields written).lookup "apply_lop_deduction" =
      some (.bool component.prorated)) :
    record.Answers (component.fields written) (component.reread terms) :=
  Answers.map Component.mk (.field rfl rfl)
    |>.seq (.field rfl rfl)
    |>.seq (.field rfl (Reader.choice_kind _))
    |>.seq (.field rfl (Reader.choice_category _))
    |>.seq (.field rfl (Reader.amount_document _))
    |>.seq (.field rfl rfl)
    |>.seq given
    |>.seq (.field last rfl)

theorem read_document {component : Component} {terms : List Term}
    (given : Term.readAll (.ofList (component.terms.map Term.document)) = .ok terms) :
    read component.document = .ok (component.reread terms) := by
  cases written : component.terms with
  | nil =>
      rw [written] at given
      cases given
      have answers := component.record_answers [] (.absent rfl rfl) rfl
      have made := RecordReader.read_ofFields answers (by simp [fields]) (by simp [fields, record])
      simpa [read, document, written, fields] using made
  | cons term rest =>
      have answers := component.record_answers
        [("formula_terms", .ofList (component.terms.map Term.document))] (.field rfl given) rfl
      have made := RecordReader.read_ofFields answers (by simp [fields]) (by simp [fields, record])
      simpa [read, document, written, fields] using made

/-- Whatever was read as a component is read back from its written form as an alike one. -/
theorem exists_alike_of_read {given : Document} {component : Component}
    (made : read given = .ok component) :
    ∃ again, read component.document = .ok again ∧ component.Alike again := by
  obtain ⟨fields, made⟩ := RecordReader.exists_build_of_read made
  simp only [record, RecordReader.build_seq_eq_ok_iff, RecordReader.build_map_eq_ok_iff] at made
  obtain ⟨_, prorated, ⟨_, terms, ⟨_, basedOn, ⟨_, amount, ⟨_, category, ⟨_, kind, ⟨_, name,
    ⟨id, -, rfl⟩, -, rfl⟩, -, rfl⟩, -, rfl⟩, -, rfl⟩, basedOnMade, rfl⟩, termsMade, rfl⟩, -,
    rfl⟩ := made
  have ofText : basedOn.IsOfText := by
    rcases RecordReader.read_or_absent_of_build basedOnMade with ⟨document, read⟩ | none
    · obtain ⟨text, -, rfl⟩ := Outcome.map_eq_ok_iff.mp read
      exact Reference.isOfText_ofText text
    · cases none
      rfl
  have stored : ∀ term ∈ terms, ∃ written, Term.ofWritten written = .ok term := by
    intro term listed
    rcases RecordReader.read_or_absent_of_build termsMade with ⟨document, read⟩ | none
    · obtain ⟨written, converted⟩ := Reader.exists_convert_of_mem_listWith read listed
      exact ⟨written, Outcome.mapError_eq_ok_iff.mp converted⟩
    · cases none
      cases listed
  obtain ⟨again, reread, alike⟩ : ∃ again,
      Term.readAll (.ofList (terms.map Term.document)) = .ok again ∧
        List.Forall₂ Term.Alike terms again := by
    apply Reader.exists_listWith_ofList
    intro term listed
    obtain ⟨written, read⟩ := stored term listed
    obtain ⟨again, reread, alike⟩ := Term.exists_alike_of_ofWritten read
    exact ⟨term.written, again, term.read_document, Outcome.mapError_eq_ok_iff.mpr reread, alike⟩
  exact ⟨_, read_document reread, rfl, rfl, rfl, rfl, Decimal.toRat_unsignZero _, ofText, alike,
    rfl⟩

end Component

/-! ## Employees and structures -/

theorem Employee.read_document (employee : Employee) :
    read employee.document = .ok { employee with ctc := employee.ctc.unsignZero } := by
  apply RecordReader.read_ofFields
  · exact Answers.map Employee.mk (.field rfl rfl)
      |>.seq (.field rfl rfl)
      |>.seq (.field rfl (Reader.amount_document _))
      |>.seq (.field rfl (Reader.word_ofInt _))
      |>.seq (.field rfl (Reader.optional_text_optionalText _))
  · simp
  · simp [record]

theorem Employee.alike_unsignZero (employee : Employee) :
    employee.Alike { employee with ctc := employee.ctc.unsignZero } :=
  ⟨rfl, rfl, Decimal.toRat_unsignZero _, rfl, rfl⟩

theorem SalaryStructure.read_document (salaryStructure : SalaryStructure) :
    read salaryStructure.document = .ok salaryStructure := by
  have ids : Reader.text.list (.ofList (salaryStructure.componentIds.map .ofText)) =
      .ok salaryStructure.componentIds := by
    obtain ⟨again, reread, same⟩ : ∃ again,
        Reader.text.list (.ofList (salaryStructure.componentIds.map .ofText)) = .ok again ∧
          List.Forall₂ Eq salaryStructure.componentIds again :=
      Reader.exists_list_ofList fun text _ => ⟨text, rfl, rfl⟩
    rw [List.forall₂_eq_eq_eq] at same
    rw [reread, same]
  apply RecordReader.read_ofFields
  · exact Answers.map SalaryStructure.mk (.field rfl rfl)
      |>.seq (.field rfl rfl)
      |>.seq (.field rfl ids)
  · simp
  · simp [record]

/-! ## Breakdowns -/

namespace LineItem

theorem read_document (item : LineItem) :
    read item.document = .ok { item with amount := item.amount.unsignZero } := by
  apply RecordReader.read_ofFields
  · exact Answers.map LineItem.mk (.field rfl rfl)
      |>.seq (.field rfl (Reader.amount_document _))
  · simp
  · simp [record]

theorem exists_alike (item : LineItem) :
    ∃ again, read item.document = .ok again ∧ item.Alike again :=
  ⟨_, item.read_document, rfl, Decimal.toRat_unsignZero _⟩

theorem exists_alike_list (items : List LineItem) :
    ∃ again, read.list (.ofList (items.map document)) = .ok again ∧
      List.Forall₂ LineItem.Alike items again :=
  Reader.exists_list_ofList fun item _ => item.exists_alike

end LineItem

namespace Breakdown

/-- Only the number of payable days could be too large to be read back, and the reader has bounded
it. -/
theorem signed_payableDays_of_read {given : Document} {breakdown : Breakdown}
    (made : read given = .ok breakdown) :
    Reader.signed (.ofInt breakdown.payableDays) = .ok breakdown.payableDays := by
  obtain ⟨fields, made⟩ := RecordReader.exists_build_of_read made
  simp only [record, RecordReader.build_seq_eq_ok_iff, RecordReader.build_map_eq_ok_iff] at made
  obtain ⟨_, days, ⟨_, _, ⟨_, _, ⟨_, _, ⟨_, _, ⟨_, _, ⟨_, _, ⟨_, _, ⟨_, _, ⟨_, _, ⟨_, _,
    ⟨_, -, rfl⟩, -, rfl⟩, -, rfl⟩, -, rfl⟩, -, rfl⟩, -, rfl⟩, -, rfl⟩, -, rfl⟩, -, rfl⟩, -, rfl⟩,
    -, rfl⟩, daysMade, rfl⟩ := made
  rcases RecordReader.read_or_absent_of_build daysMade with ⟨document, read⟩ | none
  · obtain ⟨low, high⟩ := Reader.range_of_whole_eq_ok read
    exact Reader.signed_ofInt low (by dsimp only; omega)
  · cases none

/-- Whatever was read as a breakdown is read back from its written form as an alike one. -/
theorem exists_alike_of_read {given : Document} {breakdown : Breakdown}
    (made : read given = .ok breakdown) :
    ∃ again, read breakdown.document = .ok again ∧ breakdown.Alike again := by
  obtain ⟨earnings, earningsRead, alikeEarnings⟩ := LineItem.exists_alike_list breakdown.earnings
  obtain ⟨deductions, deductionsRead, alikeDeductions⟩ :=
    LineItem.exists_alike_list breakdown.deductions
  have reread : read breakdown.document = .ok { breakdown with
      earnings
      deductions
      totalEarnings := breakdown.totalEarnings.unsignZero
      totalDeductions := breakdown.totalDeductions.unsignZero
      grossPay := breakdown.grossPay.unsignZero
      netPay := breakdown.netPay.unsignZero } := by
    apply RecordReader.read_ofFields
    · exact Answers.map Breakdown.mk (.field rfl rfl)
        |>.seq (.field rfl rfl)
        |>.seq (.field rfl rfl)
        |>.seq (.field rfl earningsRead)
        |>.seq (.field rfl deductionsRead)
        |>.seq (.field rfl (Reader.amount_document _))
        |>.seq (.field rfl (Reader.amount_document _))
        |>.seq (.field rfl (Reader.amount_document _))
        |>.seq (.field rfl (Reader.amount_document _))
        |>.seq (.field rfl (Reader.word_ofInt _))
        |>.seq (.field rfl (Reader.word_ofInt _))
        |>.seq (.field rfl (signed_payableDays_of_read made))
    · simp
    · simp [record]
  exact ⟨_, reread, rfl, rfl, rfl, alikeEarnings, alikeDeductions, Decimal.toRat_unsignZero _,
    Decimal.toRat_unsignZero _, Decimal.toRat_unsignZero _, Decimal.toRat_unsignZero _, rfl, rfl,
    rfl⟩

end Breakdown

/-! ## All of them -/

/-- Whatever the reader makes of a document is read back from the text that is written of it, as the
same value. -/
def Rereads {α : Type} (read : Reader α) (document : α → Document) (same : α → α → Prop) : Prop :=
  ∀ given value, read given = .ok value →
    ∃ again, (Json.parse (Source.ofString (Json.render (document value)))).read read = .ok again ∧
      same value again

theorem rereads_of_writable {α : Type} {read : Reader α} {document : α → Document}
    {same : α → α → Prop} (writable : ∀ value, Json.Writable (document value))
    (reread : ∀ given value, read given = .ok value →
      ∃ again, read (document value) = .ok again ∧ same value again) :
    Rereads read document same := by
  intro given value made
  obtain ⟨again, reads, alike⟩ := reread given value made
  refine ⟨again, ?_, alike⟩
  rw [Json.parse_render (writable value), Parsed.read, reads]
  rfl

/-- Components, employees, structures, lines and breakdowns: each value that was read survives being
written and read back. -/
theorem rereads :
    Rereads Component.read Component.document Component.Alike ∧
      Rereads Employee.read Employee.document Employee.Alike ∧
      Rereads SalaryStructure.read SalaryStructure.document Eq ∧
      Rereads LineItem.read LineItem.document LineItem.Alike ∧
      Rereads Breakdown.read Breakdown.document Breakdown.Alike := by
  refine ⟨?_, ?_, ?_, ?_, ?_⟩
  · exact rereads_of_writable .component fun _ _ => Component.exists_alike_of_read
  · exact rereads_of_writable .employee fun _ employee _ =>
      ⟨_, employee.read_document, employee.alike_unsignZero⟩
  · exact rereads_of_writable .salaryStructure fun _ salaryStructure _ =>
      ⟨_, salaryStructure.read_document, rfl⟩
  · exact rereads_of_writable .lineItem fun _ item _ => item.exists_alike
  · exact rereads_of_writable .breakdown fun _ _ => Breakdown.exists_alike_of_read

/-- A component in the plural, with a number for its amount and more digits than its percentage
needs. -/
def pluralComponentText : String :=
  "\x7b\"id\":\"hra\",\"name\":\"House Rent\",\"component_type\":\"earnings\"," ++
    "\"component_category\":\"formula\",\"amount\":-0.5,\"formula_terms\":" ++
    "[\x7b\"type\":\"percentage\",\"value\":\"50.0%a%b\"\x7d]\x7d"

/-- What that text is read as. -/
def pluralComponent : Component :=
  { Component.formula "hra" "House Rent" .earning [.percentage (.mk false 500 1) (.component "a%b")]
    with amount := .mk true 5 1 }

theorem Component.read_pluralComponentText :
    read (Json.parse (Source.ofString pluralComponentText)).document = .ok pluralComponent :=
  Outcome.eq_ok_of_toOption_eq_some (by decide +kernel)

theorem rereads_pluralComponent :
    Component.read (Json.parse (Source.ofString pluralComponentText)).document =
        .ok pluralComponent ∧
      ∃ again, (Json.parse (Source.ofString (Json.render pluralComponent.document))).read
          Component.read = .ok again ∧
        pluralComponent.Alike again :=
  ⟨Component.read_pluralComponentText,
    rereads.1 _ pluralComponent Component.read_pluralComponentText⟩

end Payslip
