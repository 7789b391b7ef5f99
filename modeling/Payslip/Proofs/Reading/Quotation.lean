/-
# Readers quote what they read

Where a text stands in place of something else, or is out of range, the fault keeps it and a report
quotes it. Whoever searches a report for words of its own should know what else can be in it: some
text of the document, whatever the client chose to write there, and names of fields, which are the
library's own and without blanks (`ReadError.Quotes`).

`Reader.Quotes` says this of a reader. There is one rule for each way in which readers are put
together, so that a new record needs one line. A record is the only case with a step in between: its
fields are collected first and read a second time when it is built, so `RecordReader.Quotes` speaks
of fields that may have come from anywhere in the document.
-/

import Payslip.Proofs.Outcome
import Payslip.Service.Admission

namespace Payslip.Reading

mutual

/-- The texts that stand in a document as values, in their order. Keys are not among them. -/
def Document.texts : Document → List String
  | .text (some content) | .plain content => [content]
  | .list _ items _ => Document.itemTexts items
  | .map _ entries _ none => Document.entryTexts entries
  | .map _ entries _ (some stray) => Document.entryTexts entries ++ stray.texts
  | _ => []

/-- The texts that stand in the items of a list. -/
def Document.itemTexts : List Document → List String
  | [] => []
  | item :: rest => item.texts ++ Document.itemTexts rest

/-- The texts that stand in the values of a map. -/
def Document.entryTexts : List (Option String × Document) → List String
  | [] => []
  | (_, value) :: rest => value.texts ++ Document.entryTexts rest

end

/-- A name without blanks. -/
abbrev IsWord (name : String) : Prop := ' ' ∉ name.toList

/-- What a fault tells: one of the texts that was found, or the name of a field. A fault in a term
of a formula tells more, and is none of these. -/
def Fault.Tells (texts : List String) : Fault → Prop
  | .wrongType (some found) | .badValue (some found) => found ∈ texts
  | .missingField name | .duplicateField name => IsWord name
  | .badTerm _ => False
  | _ => True

theorem Fault.Tells.mem {texts : List String} {fault : Fault} (tells : fault.Tells texts) :
    ∀ found ∈ fault.found?, found ∈ texts := by
  intro found quoted
  cases fault with
  | wrongType content | badValue content =>
      cases quoted
      exact tells
  | _ => cases quoted

theorem Fault.Tells.mono {texts others : List String} {fault : Fault} (tells : fault.Tells texts)
    (wider : texts ⊆ others) : fault.Tells others := by
  cases fault with
  | wrongType content | badValue content =>
      cases content with
      | none => trivial
      | some found => exact wider tells
  | _ => exact tells

/-- An error quotes nothing but one of the texts, and its place is made of names and numbers. -/
structure ReadError.Quotes (texts : List String) (error : ReadError) : Prop where
  fault : error.fault.Tells texts
  place : ∀ name, .field name ∈ error.place → IsWord name

/-- If there is no result, the error quotes nothing but one of the texts. -/
def QuotesFrom {α : Type} (texts : List String) (outcome : Except ReadError α) : Prop :=
  ∀ error, outcome = .error error → error.Quotes texts

namespace QuotesFrom

variable {α β : Type} {texts others : List String}

theorem ok (a : α) : QuotesFrom texts (.ok a) := by
  intro error failed
  cases failed

theorem fail {fault : Fault} (tells : fault.Tells texts) :
    QuotesFrom texts (fail fault : Except ReadError α) := by
  intro error failed
  cases failed
  exact ⟨tells, fun name listed => by cases listed⟩

theorem mono {outcome : Except ReadError α} (quotes : QuotesFrom texts outcome)
    (wider : texts ⊆ others) : QuotesFrom others outcome :=
  fun error failed => ⟨(quotes error failed).fault.mono wider, (quotes error failed).place⟩

theorem bind {outcome : Except ReadError α} {next : α → Except ReadError β}
    (first : QuotesFrom texts outcome)
    (later : ∀ a, outcome = .ok a → QuotesFrom texts (next a)) :
    QuotesFrom texts (outcome >>= next) := by
  cases outcome with
  | ok a => exact later a rfl
  | error error =>
      intro same failed
      cases failed
      exact first error rfl

theorem map {outcome : Except ReadError α} (f : α → β) (quotes : QuotesFrom texts outcome) :
    QuotesFrom texts (outcome.map f) :=
  fun error failed => quotes error (Outcome.map_eq_error_iff.mp failed)

theorem within {outcome : Except ReadError α} {step : Step}
    (word : ∀ name, step = .field name → IsWord name) (quotes : QuotesFrom texts outcome) :
    QuotesFrom texts (within step outcome) := by
  cases outcome with
  | ok a => exact .ok a
  | error error =>
      intro under failed
      cases failed
      refine ⟨(quotes error rfl).fault, fun name listed => ?_⟩
      rcases List.mem_cons.mp listed with here | deeper
      · exact word name here.symm
      · exact (quotes error rfl).place name deeper

theorem withinField {outcome : Except ReadError α} {name : String} (word : IsWord name)
    (quotes : QuotesFrom texts outcome) : QuotesFrom texts (Reading.within (.field name) outcome) :=
  quotes.within fun _ same => Step.field.inj same ▸ word

theorem withinItem {outcome : Except ReadError α} (index : Nat)
    (quotes : QuotesFrom texts outcome) : QuotesFrom texts (Reading.within (.item index) outcome) :=
  quotes.within fun _ same => by cases same

end QuotesFrom

/-- Whatever document is read, a fault quotes nothing but a text of it. -/
def Reader.Quotes {α : Type} (reader : Reader α) : Prop :=
  ∀ document : Document, QuotesFrom document.texts (reader document)

theorem Document.otherType_tells (document : Document) :
    document.otherType.Tells document.texts := by
  cases document with
  | text content =>
      cases content with
      | none => trivial
      | some content => exact List.mem_singleton_self content
  | plain content => exact List.mem_singleton_self content
  | number written =>
      rw [Document.otherType]
      split <;> trivial
  | broken | null | bool _ | list _ _ _ | map _ _ _ _ => trivial

namespace Reader.Quotes

variable {α β : Type}

theorem text : Reader.text.Quotes := by
  intro document
  rw [Reader.text.eq_def]
  split
  · exact .ok _
  · exact .ok _
  · exact .fail (Document.otherType_tells _)

theorem whole (low high : Int) : (Reader.whole low high).Quotes := by
  intro document
  rw [Reader.whole.eq_def]
  split
  · split
    · exact .fail trivial
    · exact .fail trivial
    · split
      · exact .ok _
      · exact .fail trivial
  · split
    · exact .fail trivial
    · split
      · exact .ok _
      · exact .fail trivial
  · exact .fail (Document.otherType_tells _)

theorem word : Reader.word.Quotes := fun document => (whole _ _ document).map _

theorem amountOfNumber (texts : List String) (value : Number.Value) :
    QuotesFrom texts (Reader.amountOfNumber value) := by
  rw [Reader.amountOfNumber.eq_def]
  split
  · split
    · exact .ok _
    · exact .fail trivial
  · split
    · exact .ok _
    · exact .fail trivial

theorem amountOfText (content : String) : QuotesFrom [content] (Reader.amountOfText content) := by
  rw [Reader.amountOfText]
  split
  · exact .ok _
  · exact .fail (List.mem_singleton_self content)

theorem amount : Reader.amount.Quotes := by
  intro document
  rw [Reader.amount.eq_def]
  split
  · split
    · exact .fail trivial
    · exact amountOfNumber _ _
  · exact amountOfText _
  · split
    · exact .fail trivial
    · exact .fail trivial
    · split
      · exact amountOfNumber _ _
      · split
        · exact .fail trivial
        · exact .fail trivial
    · exact .fail trivial
    · exact amountOfNumber _ _
    · exact amountOfText _
  · exact .fail (Document.otherType_tells _)

theorem optional {reader : Reader α} (quotes : reader.Quotes) : reader.optional.Quotes := by
  intro document
  rw [Reader.optional.eq_def]
  split
  · exact .ok _
  · exact (quotes _).map _

theorem items {reader : Reader α} (quotes : reader.Quotes) (index : Nat)
    (contents : List Document) :
    QuotesFrom (Document.itemTexts contents) (Reader.items reader .ok index contents) := by
  induction contents generalizing index with
  | nil => exact .ok []
  | cons item rest ih =>
      rw [Reader.items, Document.itemTexts]
      refine (((quotes item).withinItem _).mono (List.subset_append_left _ _)).bind fun read _ => ?_
      refine (QuotesFrom.ok read).bind fun value _ => ?_
      exact ((ih _).mono (List.subset_append_right _ _)).bind fun others _ => .ok _

theorem list {reader : Reader α} (quotes : reader.Quotes) : reader.list.Quotes := by
  intro document
  rw [Reader.list, Reader.listWith.eq_def]
  split
  · refine (quotes.items 0 _).bind fun values _ => ?_
    split
    · exact .ok values
    · exact .fail trivial
  · exact .ok []
  · exact .fail (Document.otherType_tells _)

end Reader.Quotes

/-! ## Records -/

namespace RecordReader

variable {α β : Type}

/-- Every field is checked, and the record built of fields found in a document, without quoting
anything but its texts. -/
structure Quotes (record : RecordReader α) : Prop where
  words : ∀ rule ∈ record.rules, IsWord rule.name
  check : ∀ rule ∈ record.rules, Reader.Quotes rule.check
  build : ∀ texts fields, (∀ field ∈ fields, field.2.texts ⊆ texts) →
    QuotesFrom texts (record.build fields)

namespace Quotes

theorem map (make : α → β) {record : RecordReader α} (quotes : record.Quotes) :
    (make <$> record).Quotes where
  words := quotes.words
  check := quotes.check
  build texts fields listed := by
    show QuotesFrom texts (record.build fields >>= fun part => Except.ok (make part))
    exact (quotes.build texts fields listed).bind fun part _ => .ok (make part)

theorem seq {first : RecordReader (α → β)} {second : RecordReader α} (front : first.Quotes)
    (back : second.Quotes) : (first <*> second).Quotes where
  words := List.forall_mem_append.mpr ⟨front.words, back.words⟩
  check := List.forall_mem_append.mpr ⟨front.check, back.check⟩
  build texts fields listed := by
    show QuotesFrom texts (first.build fields >>= fun make => second.build fields >>= fun part =>
      Except.ok (make part))
    refine (front.build texts fields listed).bind fun make _ => ?_
    exact (back.build texts fields listed).bind fun part _ => .ok (make part)

theorem field {reader : Reader α} (quotes : reader.Quotes) {name : String} (word : IsWord name)
    (presence : Presence) {absent : Except ReadError α}
    (silent : ∀ texts, QuotesFrom texts absent) :
    (RecordReader.field name presence reader absent).Quotes where
  words := List.forall_mem_singleton.mpr word
  check := List.forall_mem_singleton.mpr fun document => (quotes document).map _
  build texts fields listed := by
    simp only [RecordReader.field]
    split
    · next document found =>
      obtain ⟨front, behind, rfl, -⟩ := List.lookup_eq_some_iff.mp found
      have held := listed (name, document) (List.mem_append_right front List.mem_cons_self)
      exact ((quotes document).withinField word).mono held
    · exact silent texts

theorem required {reader : Reader α} (quotes : reader.Quotes) {name : String}
    (word : IsWord name) : (RecordReader.required name reader).Quotes :=
  field quotes word .required fun _ => .fail word

theorem defaulted {reader : Reader α} (quotes : reader.Quotes) {name : String}
    (word : IsWord name) (standIn : α) : (RecordReader.defaulted name reader standIn).Quotes :=
  field quotes word .defaulted fun _ => .ok standIn

end Quotes

/-- The fields are gathered from a document with these texts. -/
structure Gathers (texts : List String) (outcome : Except ReadError Fields) : Prop where
  quotes : QuotesFrom texts outcome
  within : ∀ fields, outcome = .ok fields → ∀ field ∈ fields, field.2.texts ⊆ texts

namespace Gathers

variable {texts : List String}

theorem ok {fields : Fields} (within : ∀ field ∈ fields, field.2.texts ⊆ texts) :
    Gathers texts (.ok fields) where
  quotes := .ok fields
  within := by
    intro same reached
    cases reached
    exact within

theorem fail {fault : Fault} (tells : fault.Tells texts) :
    Gathers texts (Reading.fail fault) where
  quotes := .fail tells
  within := by
    intro fields reached
    cases reached

theorem bind {outcome : Except ReadError α} {next : α → Except ReadError Fields}
    (first : QuotesFrom texts outcome) (later : ∀ a, outcome = .ok a → Gathers texts (next a)) :
    Gathers texts (outcome >>= next) where
  quotes := first.bind fun a reached => (later a reached).quotes
  within := by
    intro fields reached
    obtain ⟨a, given, onward⟩ := Outcome.bind_eq_ok_iff.mp reached
    exact (later a given).within fields onward

end Gathers

section Gather

variable {rules : List FieldRule} {texts : List String}

theorem collect_gathers (words : ∀ rule ∈ rules, IsWord rule.name)
    (checks : ∀ rule ∈ rules, Reader.Quotes rule.check) {found : Fields}
    {entries : List (Option String × Document)} (before : ∀ field ∈ found, field.2.texts ⊆ texts)
    (ahead : Document.entryTexts entries ⊆ texts) :
    Gathers texts (collect rules found entries) := by
  induction entries generalizing found with
  | nil => exact .ok fun field listed => before field (List.mem_reverse.mp listed)
  | cons entry rest ih =>
      obtain ⟨key, value⟩ := entry
      rw [Document.entryTexts] at ahead
      obtain ⟨here, later⟩ := List.append_subset.mp ahead
      cases key with
      | none => exact .fail ((Document.otherType_tells value).mono here)
      | some key =>
          rw [collect]
          split
          · split
            · exact ih before later
            · exact .fail trivial
          · next rule known =>
            have listed := List.mem_of_find?_eq_some known
            have named : rule.name = key := by simpa using List.find?_some known
            have word : IsWord key := named ▸ words rule listed
            split
            · exact .fail word
            · refine .bind (((checks rule listed value).withinField word).mono here) fun _ _ => ?_
              exact ih (List.forall_mem_cons.mpr ⟨here, before⟩) later

theorem distribute_gathers (checks : ∀ rule ∈ rules, Reader.Quotes rule.check) (index : Nat)
    (closed : Bool) {items : List Document} (ahead : Document.itemTexts items ⊆ texts) :
    Gathers texts (distribute index closed rules items) := by
  induction rules generalizing index items with
  | nil =>
      cases items with
      | nil =>
          rw [distribute]
          split
          · exact .ok (List.forall_mem_nil _)
          · exact .fail trivial
      | cons item rest => exact .fail trivial
  | cons rule rules ih =>
      obtain ⟨first, others⟩ := List.forall_mem_cons.mp checks
      cases items with
      | nil =>
          rw [distribute]
          split
          · exact .fail trivial
          · split
            · exact ih others _ ahead
            · exact .fail trivial
      | cons item rest =>
          rw [Document.itemTexts] at ahead
          obtain ⟨here, later⟩ := List.append_subset.mp ahead
          have onward := ih others (index + 1) later
          rw [distribute]
          refine .bind (((first item).withinItem _).mono here) fun _ _ => ?_
          refine .bind onward.quotes fun fields reached => .ok ?_
          exact List.forall_mem_cons.mpr ⟨here, onward.within fields reached⟩

end Gather

theorem Quotes.read {record : RecordReader α} (quotes : record.Quotes) : record.read.Quotes := by
  intro document
  rw [RecordReader.read.eq_def]
  split
  · next format entries closed strayKey =>
    have ahead : Document.entryTexts entries ⊆
        (Document.map format entries closed strayKey).texts := by
      cases strayKey with
      | none => rw [Document.texts]; exact List.Subset.refl _
      | some stray => rw [Document.texts]; exact List.subset_append_left _ _
    have gathers := collect_gathers quotes.words quotes.check (List.forall_mem_nil _) ahead
    refine gathers.quotes.bind fun fields reached => ?_
    split
    · exact quotes.build _ fields (gathers.within fields reached)
    · exact .fail trivial
  · next items closed =>
    have gathers := distribute_gathers quotes.check 0 closed
      (List.Subset.refl (Document.itemTexts items))
    exact gathers.quotes.bind fun fields reached =>
      quotes.build _ fields (gathers.within fields reached)
  · exact quotes.build _ [] (List.forall_mem_nil _)
  · exact .fail (Document.otherType_tells _)

end RecordReader

end Payslip.Reading

namespace Payslip

open Payslip.Reading

theorem Employee.read_quotes : Employee.read.Quotes :=
  RecordReader.Quotes.read <|
    ((((RecordReader.Quotes.map _ (.required .text (by decide))).seq
      (.required .text (by decide))).seq (.required .amount (by decide))).seq
        (.defaulted .word (by decide) _)).seq (.defaulted (.optional .text) (by decide) _)

namespace Service

theorem BreakdownRequest.read_quotes : BreakdownRequest.read.Quotes :=
  RecordReader.Quotes.read <|
    (RecordReader.Quotes.map _ (.required Employee.read_quotes (by decide))).seq
      (.defaulted (.optional .word) (by decide) _)

theorem PayrollRequest.read_quotes : PayrollRequest.read.Quotes :=
  RecordReader.Quotes.read <|
    (RecordReader.Quotes.map _ (.required (.list Employee.read_quotes) (by decide))).seq
      (.defaulted (.optional .word) (by decide) _)

end Service

end Payslip
