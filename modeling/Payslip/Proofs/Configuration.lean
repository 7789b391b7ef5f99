/-
# Which problem of a configuration is reported

A configuration is loaded file by file, and the first file that does not give what it should ends
it. What a file gives is said here without the steps of loading: its bytes are the encoding of a
text, the text reads, and no id in it is there twice (`File.Sound`). The problems of a file are the
ways in which this fails (`File.Problem`), each with its report. A configuration then loads exactly
if its three files are sound, and else it is the problem of the first file that has one which is
reported (`load_reports_first_problem`).

A file that is missing and a file whose bytes are no text are reported alike, although in the
second case there is something under the path that is said not to be found
(`load_bytes_without_text`).
-/

import Mathlib.Data.List.Nodup
import Payslip.Configuration
import Payslip.Proofs.Outcome
import Payslip.Proofs.Text.Utf8

namespace Payslip.Configuration

open Payslip.Reading

/-! ## Ids that are there twice -/

/-- The id equals an earlier one, and no id before it does. -/
def FirstRepeated (ids : List String) (id : String) : Prop :=
  ∃ before after, ids = before ++ id :: after ∧ id ∈ before ∧ before.Nodup

theorem repeated?_eq_none_iff {seen ids : List String} :
    repeated? seen ids = none ↔ ids.Nodup ∧ ids.Disjoint seen := by
  induction ids generalizing seen with
  | nil => simp [repeated?]
  | cons first rest ih =>
      rw [repeated?, List.nodup_cons, List.disjoint_cons_left]
      split
      · next listed => simp [listed]
      · next fresh =>
        rw [ih, List.disjoint_cons_right]
        tauto

/-- Ids that are new and distinct are passed, and remembered. -/
theorem repeated?_append {seen before rest : List String} (distinct : before.Nodup)
    (fresh : before.Disjoint seen) :
    repeated? seen (before ++ rest) = repeated? (before.reverse ++ seen) rest := by
  induction before generalizing seen with
  | nil => rfl
  | cons first before ih =>
      obtain ⟨new, distinct⟩ := List.nodup_cons.mp distinct
      obtain ⟨unseen, fresh⟩ := List.disjoint_cons_left.mp fresh
      rw [List.cons_append, repeated?, if_neg unseen,
        ih distinct (List.disjoint_cons_right.mpr ⟨new, fresh⟩), List.reverse_cons,
        List.append_assoc, List.singleton_append]

/-- Before the id that is found only such ids stand. It is itself one of these or of those seen. -/
theorem exists_append_of_repeated? {seen ids : List String} {id : String}
    (found : repeated? seen ids = some id) : ∃ before after, ids = before ++ id :: after ∧
      (id ∈ before ∨ id ∈ seen) ∧ before.Nodup ∧ before.Disjoint seen := by
  induction ids generalizing seen with
  | nil => cases found
  | cons first rest ih =>
      rw [repeated?] at found
      split at found
      · next listed =>
        cases found
        exact ⟨[], rest, rfl, .inr listed, List.nodup_nil, List.disjoint_nil_left seen⟩
      · next unseen =>
        obtain ⟨before, after, rfl, earlier, distinct, fresh⟩ := ih found
        obtain ⟨new, fresh⟩ := List.disjoint_cons_right.mp fresh
        refine ⟨first :: before, after, rfl, ?_, List.nodup_cons.mpr ⟨new, distinct⟩,
          List.disjoint_cons_left.mpr ⟨unseen, fresh⟩⟩
        simp only [List.mem_cons] at earlier ⊢
        tauto

theorem repeated?_eq_some_iff {ids : List String} {id : String} :
    repeated? [] ids = some id ↔ FirstRepeated ids id := by
  constructor
  · intro found
    obtain ⟨before, after, split, earlier, distinct, -⟩ := exists_append_of_repeated? found
    exact ⟨before, after, split, earlier.resolve_right List.not_mem_nil, distinct⟩
  · rintro ⟨before, after, rfl, earlier, distinct⟩
    rw [repeated?_append distinct (List.disjoint_nil_right before), repeated?,
      if_pos (by simpa using earlier)]

theorem checkIds_eq_ok_iff {file : String} {ids : List String} :
    checkIds file ids = .ok () ↔ ids.Nodup := by
  have scan : repeated? [] ids = none ↔ ids.Nodup := by simp [repeated?_eq_none_iff]
  rw [checkIds, ← scan]
  cases repeated? [] ids <;> simp

theorem checkIds_eq_error_iff {file : String} {ids : List String} {error : PayError} :
    checkIds file ids = .error error ↔
      ∃ id, FirstRepeated ids id ∧ .configurationRefused file (.duplicateId id) = error := by
  simp only [checkIds, ← repeated?_eq_some_iff]
  cases repeated? [] ids <;> simp

/-! ## One file -/

variable {α : Type} {parse : Parser} {directory : Directory}

/-- A file of a configuration: its name, how it is read, and the ids of its entries. -/
structure File (α : Type) where
  name : String
  reader : Reader α
  ids : α → List String

namespace File

/-- The file with the metadata, which has no entries. -/
def metadata : File Metadata := ⟨metadataFile, Metadata.read, fun _ => []⟩

/-- The file with the components. -/
def components : File Catalog :=
  ⟨componentsFile, entries "components" Component.read, fun components => components.map (·.id)⟩

/-- The file with the structures. -/
def structures : File (List SalaryStructure) :=
  ⟨structuresFile, entries "structures" SalaryStructure.read, fun structures =>
    structures.map (·.id)⟩

variable {file : File α}

/-- The file is there, and its bytes encode the text. -/
def Contains (file : File α) (directory : Directory) (text : String) : Prop :=
  ∃ bytes, directory file.name = some bytes ∧ bytes.toByteArray = text.toUTF8

/-- The file contains a text that reads as the value. -/
def Gives (file : File α) (parse : Parser) (directory : Directory) (value : α) : Prop :=
  ∃ text, file.Contains directory text ∧ (parse text).read file.reader = .ok value

/-- The file gives the value, in which no id is there twice. -/
def Sound (file : File α) (parse : Parser) (directory : Directory) (value : α) : Prop :=
  file.Gives parse directory value ∧ (file.ids value).Nodup

/-- What can be wrong with a file, by the error that reports it. -/
inductive Problem (file : File α) (parse : Parser) (directory : Directory) : PayError → Prop
  | missing (absent : directory file.name = none) :
      Problem file parse directory (.configurationNotFound file.name)
  | noText (bytes : List UInt8) (present : directory file.name = some bytes)
      (odd : ∀ text : String, bytes.toByteArray ≠ text.toUTF8) :
      Problem file parse directory (.configurationNotFound file.name)
  | unreadable (text : String) (error : ReadError) (contains : file.Contains directory text)
      (failed : (parse text).read file.reader = .error error) :
      Problem file parse directory (.configurationRefused file.name (.unreadable error))
  | repeated (value : α) (id : String) (gives : file.Gives parse directory value)
      (first : FirstRepeated (file.ids value) id) :
      Problem file parse directory (.configurationRefused file.name (.duplicateId id))

/-- Reads the file and looks through its ids. -/
def load (file : File α) (parse : Parser) (directory : Directory) : Except PayError α := do
  let value ← readFile parse directory file.name file.reader
  checkIds file.name (file.ids value)
  return value

theorem contains_iff {text : String} : file.Contains directory text ↔
    (directory file.name).bind (fun bytes => (Text.Source.ofBytes bytes).text?) = some text := by
  simp only [Contains, Option.bind_eq_some_iff, Text.Source.text?_ofBytes_eq_some_iff]

theorem not_contains_iff : (∀ text, ¬ file.Contains directory text) ↔
    directory file.name = none ∨ ∃ bytes, directory file.name = some bytes ∧
      ∀ text : String, bytes.toByteArray ≠ text.toUTF8 := by
  simp only [Contains]
  cases directory file.name <;> simp

theorem readFile_eq_ok_iff {value : α} :
    readFile parse directory file.name file.reader = .ok value ↔
      file.Gives parse directory value := by
  simp only [readFile, Gives, contains_iff]
  cases (directory file.name).bind fun bytes => (Text.Source.ofBytes bytes).text? with
  | none => simp
  | some text => simp [Outcome.mapError_eq_ok_iff]

theorem readFile_eq_error_iff {error : PayError} :
    readFile parse directory file.name file.reader = .error error ↔
      (∀ text, ¬ file.Contains directory text) ∧ .configurationNotFound file.name = error ∨
      ∃ text cause, file.Contains directory text ∧
        (parse text).read file.reader = .error cause ∧
        .configurationRefused file.name (.unreadable cause) = error := by
  simp only [readFile, contains_iff]
  cases (directory file.name).bind fun bytes => (Text.Source.ofBytes bytes).text? with
  | none => simp
  | some text => simp [Outcome.mapError_eq_error_iff]

theorem load_eq_ok_iff {value : α} :
    file.load parse directory = .ok value ↔ file.Sound parse directory value := by
  simp only [load, Outcome.bind_eq_ok_iff, readFile_eq_ok_iff]
  constructor
  · rintro ⟨_, gives, _, passed, ⟨⟩⟩
    exact ⟨gives, checkIds_eq_ok_iff.mp passed⟩
  · rintro ⟨gives, distinct⟩
    exact ⟨value, gives, (), checkIds_eq_ok_iff.mpr distinct, rfl⟩

theorem load_eq_error_iff {error : PayError} :
    file.load parse directory = .error error ↔ file.Problem parse directory error := by
  have returns (value : α) : (pure value : Except PayError α) ≠ .error error := nofun
  simp only [load, Outcome.bind_eq_error_iff, readFile_eq_error_iff, readFile_eq_ok_iff,
    checkIds_eq_error_iff, not_contains_iff, returns, and_false, exists_false, or_false]
  constructor
  · rintro ((⟨absent | ⟨bytes, present, odd⟩, rfl⟩ | ⟨text, cause, contains, failed, rfl⟩) |
      ⟨value, gives, id, first, rfl⟩)
    · exact .missing absent
    · exact .noText bytes present odd
    · exact .unreadable text cause contains failed
    · exact .repeated value id gives first
  · intro problem
    cases problem with
    | missing absent => exact .inl (.inl ⟨.inl absent, rfl⟩)
    | noText bytes present odd => exact .inl (.inl ⟨.inr ⟨bytes, present, odd⟩, rfl⟩)
    | unreadable text cause contains failed =>
        exact .inl (.inr ⟨text, cause, contains, failed, rfl⟩)
    | repeated value id gives first => exact .inr ⟨value, gives, id, first, rfl⟩

end File

/-! ## The three files -/

theorem load_eq (parse : Parser) (directory : Directory) :
    load directory parse = do
      let metadata ← File.metadata.load parse directory
      let components ← File.components.load parse directory
      let structures ← File.structures.load parse directory
      return { metadata, components, structures } := by
  have noIds : checkIds metadataFile [] = .ok () := rfl
  simp only [load, File.load, File.metadata, File.components, File.structures, noIds,
    bind_assoc, Outcome.ok_bind, pure_bind]

/-- However texts are parsed, a configuration loads if its files are sound, with what they give.
Otherwise the error is that of the first file, in the order metadata, components and structures,
that has a problem. -/
theorem load_reports_first_problem (parse : Parser) (directory : Directory) :
    (∀ configuration, load directory parse = .ok configuration ↔
      File.metadata.Sound parse directory configuration.metadata ∧
      File.components.Sound parse directory configuration.components ∧
      File.structures.Sound parse directory configuration.structures) ∧
    (∀ error, load directory parse = .error error ↔
      File.metadata.Problem parse directory error ∨
      ∃ metadata, File.metadata.Sound parse directory metadata ∧
        (File.components.Problem parse directory error ∨
        ∃ components, File.components.Sound parse directory components ∧
          File.structures.Problem parse directory error)) := by
  rw [load_eq]
  constructor
  · rintro ⟨metadata, components, structures⟩
    simp only [Outcome.bind_eq_ok_iff, File.load_eq_ok_iff]
    constructor
    · rintro ⟨_, first, _, second, _, third, ⟨⟩⟩
      exact ⟨first, second, third⟩
    · rintro ⟨first, second, third⟩
      exact ⟨metadata, first, components, second, structures, third, rfl⟩
  · intro error
    have returns (configuration : Configuration) :
        (pure configuration : Except PayError Configuration) ≠ .error error := nofun
    simp only [Outcome.bind_eq_error_iff, File.load_eq_ok_iff, File.load_eq_error_iff, returns,
      and_false, exists_false, or_false]

/-- A directory with three files, the first of which is a byte that starts no character. -/
def undecodable : Directory := fun name =>
  if name = metadataFile then some [0xFF]
  else if name = componentsFile then some "components: []".toUTF8.toList
  else if name = structuresFile then some "structures: []".toUTF8.toList
  else none

/-- A file can be reported as not found although it is there, and before anything is parsed. -/
theorem load_bytes_without_text :
    undecodable metadataFile = some [0xFF] ∧
    ∀ parse, load undecodable parse = .error (.configurationNotFound metadataFile) := by
  have noText : (undecodable metadataFile).bind
      (fun bytes => (Text.Source.ofBytes bytes).text?) = none := by decide +kernel
  refine ⟨rfl, fun parse => ?_⟩
  rw [load, readFile, noText]
  rfl

end Payslip.Configuration
