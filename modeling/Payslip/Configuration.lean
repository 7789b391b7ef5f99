/-
# Payroll configurations

A configuration is three YAML files: what it is called, the components in their order, and the
structures. It loads when all three are there and read, and when no file has an id twice. The
first problem in the order of the files is the one that is reported. Nothing else here hangs on how
a text is taken for a document, so this is left to a parser.
-/

import Payslip.Wire.Component
import Payslip.Wire.Employee
import Payslip.PayError
import Payslip.Yaml.Parsing
import Payslip.Breakdown

namespace Payslip

open Payslip.Reading

/-- What a configuration says about itself. -/
structure Metadata where
  name : String
  version : String
  currency : String
  /-- The working days that are reported when a request gives none. -/
  workingDays : UInt32
  deriving DecidableEq, Repr

namespace Metadata

/-- The fields of the metadata. -/
def record : RecordReader Metadata :=
  Metadata.mk
    <$> .required "name" Reader.text
    <*> .required "version" Reader.text
    <*> .required "currency" Reader.text
    <*> .defaulted "default_working_days" Reader.word defaultWorkingDays

/-- Reads metadata. -/
def read : Reader Metadata := record.read

/-- The metadata as a document. -/
def document (metadata : Metadata) : Document :=
  .ofFields
    [("name", .ofText metadata.name),
      ("version", .ofText metadata.version),
      ("currency", .ofText metadata.currency),
      ("default_working_days", .ofInt metadata.workingDays.toNat)]

end Metadata

/-- A payroll configuration. -/
structure Configuration where
  metadata : Metadata
  components : Catalog
  structures : List SalaryStructure
  deriving DecidableEq, Repr

/-- The files of a directory by name, each with its bytes. -/
abbrev Directory := String → Option (List UInt8)

/-- How the text of a file is taken for a document. -/
abbrev Parser := String → Parsed

namespace Configuration

/-- The component with the given id. -/
def component (configuration : Configuration) (id : String) : Except PayError Component :=
  match configuration.components.component? id with
  | some component => .ok component
  | none => .error (.componentNotFound id)

/-- The structure with the given id. -/
def salaryStructure (configuration : Configuration) (id : String) :
    Except PayError SalaryStructure :=
  match configuration.structures.find? (·.id == id) with
  | some found => .ok found
  | none => .error (.structureNotFound id)

/-- The structure that an employee is paid under. -/
def structureFor (configuration : Configuration) (employee : Employee) :
    Except PayError SalaryStructure :=
  match employee.structureId with
  | none => .error (.structureNotAssigned employee.id)
  | some id => configuration.salaryStructure id

/-- The file that holds the metadata. -/
def metadataFile : String := "payroll.yaml"

/-- The file that holds the components. -/
def componentsFile : String := "components.yaml"

/-- The file that holds the structures. -/
def structuresFile : String := "structures.yaml"

/-- Reads a file. One whose bytes are no text counts as missing. -/
def readFile {α : Type} (parse : Parser) (directory : Directory) (file : String)
    (reader : Reader α) : Except PayError α :=
  match (directory file).bind fun bytes => (Text.Source.ofBytes bytes).text? with
  | none => .error (.configurationNotFound file)
  | some text =>
    ((parse text).read reader).mapError fun error =>
      .configurationRefused file (.unreadable error)

/-- The first id that equals an earlier one. -/
def repeated? (seen : List String) : List String → Option String
  | [] => none
  | id :: rest => if id ∈ seen then some id else repeated? (id :: seen) rest

/-- Refuses a file in which an id is there twice. -/
def checkIds (file : String) (ids : List String) : Except PayError Unit :=
  match repeated? [] ids with
  | none => .ok ()
  | some id => .error (.configurationRefused file (.duplicateId id))

/-- Reads a file that holds a list under one name. -/
def entries {α : Type} (name : String) (reader : Reader α) : Reader (List α) :=
  (RecordReader.required name reader.list).read

/-- Loads a configuration from a directory. Its files are taken for YAML unless something else is
said. -/
def load (directory : Directory) (parse : Parser := Yaml.parse) :
    Except PayError Configuration := do
  let metadata ← readFile parse directory metadataFile Metadata.read
  let components ← readFile parse directory componentsFile (entries "components" Component.read)
  checkIds componentsFile (components.map (·.id))
  let structures ←
    readFile parse directory structuresFile (entries "structures" SalaryStructure.read)
  checkIds structuresFile (structures.map (·.id))
  return { metadata, components, structures }

end Configuration

end Payslip
