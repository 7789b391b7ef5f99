/-
# Reading records and lists

A record reader is put together from readers of single fields, and so are the facts about
it. `Answers` says that fields are taken for a value: those of the fields give it for the
record, and `read_ofFields` makes of it that a map with these fields reads, whatever their
order. In the other direction `exists_build_of_read` says that nothing else than its fields
makes up a record, whether it was written as a map or as a list.
-/

import Mathlib.Data.List.Forall2
import Payslip.Proofs.Outcome
import Payslip.Reading.Record

namespace Payslip.Reading

theorem within_eq_ok_iff {α : Type} {step : Step} {result : Except ReadError α} {value : α} :
    within step result = .ok value ↔ result = .ok value := by
  rw [within, Outcome.mapError_eq_ok_iff]

namespace RecordReader

variable {α β : Type}

/-! ## Fields that make up a record -/

@[simp]
theorem rules_seq (first : RecordReader (α → β)) (second : RecordReader α) :
    (first <*> second).rules = first.rules ++ second.rules := rfl

@[simp]
theorem rules_map (make : α → β) (record : RecordReader α) :
    (make <$> record).rules = record.rules := rfl

@[simp]
theorem rules_required (name : String) (reader : Reader α) :
    (required name reader).rules.map FieldRule.name = [name] := rfl

@[simp]
theorem rules_defaulted (name : String) (reader : Reader α) (standIn : α) :
    (defaulted name reader standIn).rules.map FieldRule.name = [name] := rfl

theorem build_seq_eq_ok_iff {first : RecordReader (α → β)} {second : RecordReader α}
    {fields : Fields} {value : β} :
    (first <*> second).build fields = .ok value ↔
      ∃ make part, first.build fields = .ok make ∧ second.build fields = .ok part ∧
        make part = value := by
  show (first.build fields >>= fun make => second.build fields >>= fun part =>
    Except.ok (make part)) = .ok value ↔ _
  simp [Outcome.bind_eq_ok_iff]

theorem build_map_eq_ok_iff {make : α → β} {record : RecordReader α} {fields : Fields}
    {value : β} :
    (make <$> record).build fields = .ok value ↔
      ∃ part, record.build fields = .ok part ∧ make part = value := by
  show (record.build fields >>= fun part => Except.ok (make part)) = .ok value ↔ _
  simp [Outcome.bind_eq_ok_iff]

/-- The fields are taken for the value, and none of them is refused before. -/
structure Answers (record : RecordReader α) (fields : Fields) (value : α) : Prop where
  build_eq : record.build fields = .ok value
  check_eq : ∀ rule ∈ record.rules, ∀ document, fields.lookup rule.name = some document →
    rule.check document = .ok ()

namespace Answers

variable {fields : Fields}

theorem seq {first : RecordReader (α → β)} {second : RecordReader α} {make : α → β} {part : α}
    (made : first.Answers fields make) (given : second.Answers fields part) :
    (first <*> second).Answers fields (make part) := by
  constructor
  · exact build_seq_eq_ok_iff.mpr ⟨make, part, made.build_eq, given.build_eq, rfl⟩
  · intro rule listed
    rcases List.mem_append.mp listed with front | back
    · exact made.check_eq rule front
    · exact given.check_eq rule back

theorem map (make : α → β) {record : RecordReader α} {part : α}
    (given : record.Answers fields part) : (make <$> record).Answers fields (make part) :=
  ⟨build_map_eq_ok_iff.mpr ⟨part, given.build_eq, rfl⟩, given.check_eq⟩

variable {name : String} {presence : Presence} {reader : Reader α}
  {standIn : Except ReadError α} {value : α}

theorem field {document : Document} (found : fields.lookup name = some document)
    (read : reader document = .ok value) :
    (RecordReader.field name presence reader standIn).Answers fields value := by
  constructor
  · simp only [RecordReader.field, found]
    exact within_eq_ok_iff.mpr read
  · intro rule listed other held
    cases List.mem_singleton.mp listed
    cases found.symm.trans held
    simp [read, Except.map]

/-- A field that is left out is answered by what stands in for it. -/
theorem absent (missing : fields.lookup name = none) (default : standIn = .ok value) :
    (RecordReader.field name presence reader standIn).Answers fields value := by
  constructor
  · simp only [RecordReader.field, missing]
    exact default
  · intro rule listed other held
    cases List.mem_singleton.mp listed
    cases missing.symm.trans held

end Answers

theorem lookup_of_mem {fields : Fields} {name : String} {document : Document}
    (distinct : (fields.map Prod.fst).Nodup) (listed : (name, document) ∈ fields) :
    fields.lookup name = some document := by
  induction fields with
  | nil => cases listed
  | cons field rest ih =>
      obtain ⟨apart, distinct⟩ := List.nodup_cons.mp distinct
      rcases List.mem_cons.mp listed with rfl | later
      · simp
      · have different : name ≠ field.1 := by
          intro same
          rw [← same] at apart
          exact apart (List.mem_map_of_mem (f := Prod.fst) later)
        rw [List.lookup_cons, beq_false_of_ne different]
        exact ih distinct later

/-- Fields of the record that are there once and pass their checks are collected. -/
theorem collect_entries {rules : List FieldRule} {found fields : Fields}
    (distinct : (fields.map Prod.fst).Nodup)
    (fresh : ∀ field ∈ fields, ∀ earlier ∈ found, earlier.1 ≠ field.1)
    (known : ∀ field ∈ fields, ∃ rule ∈ rules, rule.name = field.1)
    (passed : ∀ field ∈ fields, ∀ rule ∈ rules, rule.name = field.1 → rule.check field.2 = .ok ()) :
    collect rules found (fields.map fun field => (some field.1, field.2)) =
      .ok (found.reverse ++ fields) := by
  induction fields generalizing found with
  | nil => simp [collect]
  | cons field rest ih =>
      obtain ⟨apart, distinct⟩ := List.nodup_cons.mp distinct
      have unused : found.any (·.1 == field.1) = false := by
        rw [List.any_eq_false]
        intro earlier listed same
        exact fresh field List.mem_cons_self earlier listed (by simpa using same)
      have freshAfter : ∀ later ∈ rest, ∀ earlier ∈ field :: found, earlier.1 ≠ later.1 := by
        intro later listed earlier before same
        rcases List.mem_cons.mp before with rfl | longBefore
        · exact apart (same ▸ List.mem_map_of_mem listed)
        · exact fresh later (List.mem_cons_of_mem field listed) earlier longBefore same
      obtain ⟨rule, searched⟩ : ∃ rule, rules.find? (·.name == field.1) = some rule := by
        obtain ⟨rule, listed, same⟩ := known field List.mem_cons_self
        apply Option.ne_none_iff_exists'.mp
        intro missing
        exact List.find?_eq_none.mp missing rule listed (by simpa using same)
      have here := passed field List.mem_cons_self rule (List.mem_of_find?_eq_some searched)
        (by simpa using List.find?_some searched)
      have onward := ih distinct freshAfter
        (fun later listed => known later (List.mem_cons_of_mem field listed))
        (fun later listed => passed later (List.mem_cons_of_mem field listed))
      rw [List.map_cons, collect, searched]
      simp only [unused, here]
      rw [if_neg (by decide)]
      show collect rules (field :: found) _ = _
      rw [onward]
      simp

/-- A map reads as what its fields are taken for, if each of them is a field of the record and none
is there twice. -/
theorem read_ofFields {record : RecordReader α} {fields : Fields} {value : α}
    (answers : record.Answers fields value) (distinct : (fields.map Prod.fst).Nodup)
    (known : ∀ name ∈ fields.map Prod.fst, name ∈ record.rules.map FieldRule.name) :
    record.read (.ofFields fields) = .ok value := by
  have collected : collect record.rules [] (fields.map fun field => (some field.1, field.2)) =
      .ok fields := by
    apply collect_entries distinct
    · intro field _ earlier none
      cases none
    · intro field listed
      exact List.mem_map.mp (known field.1 (List.mem_map_of_mem listed))
    · intro field listed rule ruled same
      refine answers.check_eq rule ruled field.2 ?_
      rw [same]
      exact lookup_of_mem distinct listed
  rw [Document.ofFields, read, collected]
  exact answers.build_eq

/-- However a record is written, it is made up of fields. -/
theorem exists_build_of_read {record : RecordReader α} {document : Document} {value : α}
    (made : record.read document = .ok value) : ∃ fields, record.build fields = .ok value := by
  rw [read.eq_def] at made
  split at made
  · obtain ⟨fields, -, made⟩ := Outcome.bind_eq_ok_iff.mp made
    split at made
    · exact ⟨fields, made⟩
    · cases made
  · obtain ⟨fields, -, made⟩ := Outcome.bind_eq_ok_iff.mp made
    exact ⟨fields, made⟩
  · exact ⟨[], made⟩
  · cases made

/-- The value of a field was read, unless it stands in for one that is left out. -/
theorem read_or_absent_of_build {name : String} {presence : Presence} {reader : Reader α}
    {absent : Except ReadError α} {fields : Fields} {value : α}
    (made : (field name presence reader absent).build fields = .ok value) :
    (∃ document, reader document = .ok value) ∨ absent = .ok value := by
  simp only [field] at made
  split at made
  · exact .inl ⟨_, within_eq_ok_iff.mp made⟩
  · exact .inr made

end RecordReader

/-! ## Lists -/

namespace Reader

variable {α β γ : Type} {reader : Reader α} {convert : α → Except Fault β}

theorem items_cons_of_ok {index : Nat} {item : Document} {rest : List Document} {read : α}
    {value : β} {others : List β} (given : reader item = .ok read)
    (converted : convert read = .ok value)
    (onward : items reader convert (index + 1) rest = .ok others) :
    items reader convert index (item :: rest) = .ok (value :: others) := by
  rw [items, given, onward]
  simp only [within, Except.mapError, Outcome.ok_bind, converted]
  rfl

/-- Where every written item is read back as something, so is the list. -/
theorem exists_listWith_ofList {document : γ → Document} {same : γ → β → Prop} {values : List γ}
    (each : ∀ value ∈ values, ∃ read again, reader (document value) = .ok read ∧
      convert read = .ok again ∧ same value again) :
    ∃ again, listWith reader convert (.ofList (values.map document)) = .ok again ∧
      List.Forall₂ same values again := by
  have step : ∀ index, ∃ again, items reader convert index (values.map document) = .ok again ∧
      List.Forall₂ same values again := by
    induction values with
    | nil => exact fun index => ⟨[], rfl, .nil⟩
    | cons value rest ih =>
        intro index
        obtain ⟨read, first, given, converted, alike⟩ := each value List.mem_cons_self
        obtain ⟨others, onward, alikeOthers⟩ :=
          ih (fun later listed => each later (List.mem_cons_of_mem value listed)) (index + 1)
        exact ⟨first :: others, items_cons_of_ok given converted onward, .cons alike alikeOthers⟩
  obtain ⟨again, given, alike⟩ := step 0
  refine ⟨again, ?_, alike⟩
  rw [Document.ofList, listWith, given]
  rfl

theorem exists_list_ofList {document : γ → Document} {reader : Reader β} {same : γ → β → Prop}
    {values : List γ}
    (each : ∀ value ∈ values, ∃ again, reader (document value) = .ok again ∧ same value again) :
    ∃ again, Reader.list reader (.ofList (values.map document)) = .ok again ∧
      List.Forall₂ same values again := by
  apply exists_listWith_ofList
  intro value listed
  obtain ⟨again, given, alike⟩ := each value listed
  exact ⟨again, again, given, rfl, alike⟩

/-- Every value of a list was converted from something. -/
theorem exists_convert_of_mem_items {index : Nat} {contents : List Document} {values : List β}
    (made : items reader convert index contents = .ok values) {value : β}
    (listed : value ∈ values) :
    ∃ read, convert read = .ok value := by
  induction contents generalizing index values with
  | nil =>
      cases made
      cases listed
  | cons item rest ih =>
      obtain ⟨read, -, made⟩ := Outcome.bind_eq_ok_iff.mp made
      obtain ⟨first, converted, made⟩ := Outcome.bind_eq_ok_iff.mp made
      obtain ⟨others, onward, made⟩ := Outcome.bind_eq_ok_iff.mp made
      cases made
      rcases List.mem_cons.mp listed with rfl | later
      · exact ⟨read, Outcome.mapError_eq_ok_iff.mp converted⟩
      · exact ih onward later

theorem exists_convert_of_mem_listWith {document : Document} {values : List β}
    (made : listWith reader convert document = .ok values) {value : β} (listed : value ∈ values) :
    ∃ read, convert read = .ok value := by
  rw [listWith.eq_def] at made
  split at made
  · obtain ⟨others, given, made⟩ := Outcome.bind_eq_ok_iff.mp made
    split at made
    · cases made
      exact exists_convert_of_mem_items given listed
    · cases made
  · cases made
    cases listed
  · cases made

end Reader

end Payslip.Reading
