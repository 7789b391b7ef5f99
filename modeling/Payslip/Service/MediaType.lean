/-
# Media types

The part of the syntax of media types that decides whether a body is announced as JSON: two names
with a slash between them, and parameters that have no effect but have to be well formed.
-/

namespace Payslip.Service.MediaType

/-- A character of a name. -/
def isNameChar (c : Char) : Bool :=
  c.isAlphanum || "!#$%&'*+-.^_|~".toList.contains c || c == '\x60'

/-- A character that a header may hold. -/
def isHeaderChar (c : Char) : Bool := (0x20 ≤ c.toNat && c.toNat < 0x7F) || c == '\t'

/-- A character between quotes; the header has been checked before. -/
def isQuotedChar (c : Char) : Bool := 0x20 ≤ c.toNat

/-- The rest behind a quoted value, given the characters behind the opening quote. The first of
them is part of the value whatever it is. -/
def behindQuoted? : List Char → Option (List Char)
  | [] => none
  | first :: rest =>
    let value := rest.takeWhile (· != '"')
    if isQuotedChar first && value.all isQuotedChar then
      match rest.drop value.length with
      | _ :: rest => some rest
      | [] => none
    else none

/-- The parameters behind a semicolon are well formed. Each takes at least one character, so `room`
for as many as there are characters is enough. -/
def areParameters : (room : Nat) → List Char → Bool
  | 0, text => text.isEmpty
  | room + 1, text =>
    match text.dropWhile (· == ' ') with
    | [] => true
    | text =>
      let name := text.takeWhile isNameChar
      if name.isEmpty then false
      else
        match text.drop name.length with
        | '=' :: '"' :: rest =>
          match behindQuoted? rest with
          | none => false
          | some rest =>
            match rest.dropWhile (· == ' ') with
            | [] => true
            | ';' :: rest => areParameters room rest
            | _ => false
        | '=' :: rest =>
          let value := rest.takeWhile isNameChar
          match rest.drop value.length with
          | [] => true
          | ';' :: rest => if value.isEmpty then false else areParameters room rest
          | _ => false
        | _ => false

/-- Cuts a name at its last plus, unless that is its first character. -/
def cutSuffix (name : List Char) : List Char × Option (List Char) :=
  let suffix := (name.reverse.takeWhile (· != '+')).reverse
  let front := name.take (name.length - suffix.length - 1)
  if suffix.length = name.length ∨ front.isEmpty then (name, none) else (front, some suffix)

/-- The media type is that of JSON: `application/json`, or another type with the suffix `+json`. -/
def isJson (header : String) : Bool :=
  let text := header.toList
  let kind := text.takeWhile isNameChar
  if !text.all isHeaderChar || kind.isEmpty then false
  else
    match text.drop kind.length with
    | '/' :: rest =>
      let name := rest.takeWhile isNameChar
      let wellFormed :=
        match rest.drop name.length with
        | [] => true
        | ';' :: parameters => !name.isEmpty && areParameters parameters.length parameters
        | _ => false
      let (front, suffix) := cutSuffix (name.map Char.toLower)
      wellFormed && kind.map Char.toLower == "application".toList &&
        (front == "json".toList || suffix == some "json".toList)
    | _ => false

end Payslip.Service.MediaType
