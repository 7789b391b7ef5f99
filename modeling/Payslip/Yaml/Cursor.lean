/-
# Moving through a YAML text

Where a reader of a YAML text stands: what is left of the text, and the line and the column that
decide about nesting. From there it skips what separates tokens and reads scalars, quoted or not.
A scalar may go on over several lines, which are joined by a blank; empty lines between them are
kept as line ends.
-/

import Payslip.Text.Digits

namespace Payslip.Yaml

open Payslip.Text

/-- A position in a text. -/
structure Cursor where
  rest : List Char
  line : Nat
  column : Nat

/-- A blank inside of a line. -/
def isBlank (c : Char) : Bool := c == ' ' || c == '\t'

/-- The end of a line: a line feed, or one of the two separators that stand in texts themselves. -/
def isLineEnd (c : Char) : Bool := c == '\n' || c == '\u2028' || c == '\u2029'

/-- The text ends, or starts with a blank or the end of a line. -/
def startsBlank : List Char → Bool
  | [] => true
  | c :: _ => isBlank c || isLineEnd c

/-- A mark by which flow lists and maps are written. -/
def isFlowMark (c : Char) : Bool :=
  c == ',' || c == '[' || c == ']' || c == '\x7b' || c == '\x7d'

/-- The text starts with a line that begins or ends a document. -/
def atDocumentMark (column : Nat) (text : List Char) : Bool :=
  column == 0 &&
    (("---".toList.isPrefixOf text || "...".toList.isPrefixOf text) && startsBlank (text.drop 3))

/-- Moves on by so many characters of the same line. -/
def Cursor.skip (cursor : Cursor) (n : Nat) : Cursor :=
  { cursor with rest := cursor.rest.drop n, column := cursor.column + n }

/-- Skips blanks, comments and line ends. Outside of flow lists and maps a new line may begin with a
key, and until something else has been read on it no tab may stand there. -/
def Cursor.skipGap (inFlow keyAllowed : Bool) (cursor : Cursor) : Cursor × Bool :=
  go false keyAllowed cursor.line cursor.column cursor.rest
where
  /-- Skips on, inside of a comment or not. -/
  go (inComment keyAllowed : Bool) (line column : Nat) : List Char → Cursor × Bool
    | [] => (⟨[], line, column⟩, keyAllowed)
    | c :: rest =>
      if isLineEnd c then go false (keyAllowed || !inFlow) (line + 1) 0 rest
      else if inComment then go true keyAllowed line (column + 1) rest
      else if c == ' ' || (c == '\t' && (inFlow || !keyAllowed)) then
        go false keyAllowed line (column + 1) rest
      else if c == '#' then go true keyAllowed line (column + 1) rest
      else (⟨c :: rest, line, column⟩, keyAllowed)

/-- How the line before the current text of a scalar ended. -/
inductive LineEnd
  /-- The current text stands on the same line. -/
  | none
  | plain (c : Char)
  /-- Behind a backslash. -/
  | escaped
  deriving DecidableEq

/-- A scalar as far as it has been read, latest character first, and the white space behind it:
blanks, the first line end, and the further ones. -/
structure Folded where
  text : List Char
  blanks : List Char
  lineEnd : LineEnd
  emptyLines : List Char

namespace Folded

/-- Nothing has been read yet. -/
def start : Folded := ⟨[], [], .none, []⟩

/-- The scalar with its white space: blanks of one line stay, a line feed is a blank unless empty
lines or a backslash stand in for it, and other line ends stay. -/
def settled (folded : Folded) : List Char :=
  match folded.lineEnd with
  | .none => folded.blanks ++ folded.text
  | .plain c =>
    if c ≠ '\n' then folded.emptyLines ++ c :: folded.text
    else if folded.emptyLines.isEmpty then ' ' :: folded.text
    else folded.emptyLines ++ folded.text
  | .escaped => folded.emptyLines ++ folded.text

/-- Adds a character. -/
def push (folded : Folded) (c : Char) : Folded := { start with text := c :: folded.settled }

/-- Adds a blank, which counts only inside of a line. -/
def pushBlank (folded : Folded) (c : Char) : Folded :=
  if folded.lineEnd = .none then { folded with blanks := c :: folded.blanks } else folded

/-- Adds a line end. -/
def pushLineEnd (folded : Folded) (c : Char) : Folded :=
  if folded.lineEnd = .none then { folded with blanks := [], lineEnd := .plain c }
  else { folded with emptyLines := c :: folded.emptyLines }

/-- Adds a line end behind a backslash. -/
def escapeLineEnd (folded : Folded) : Folded :=
  { start with text := folded.settled, lineEnd := .escaped }

/-- There is white space behind what has been read. -/
def isBroken (folded : Folded) : Bool := !folded.blanks.isEmpty || folded.lineEnd != .none

end Folded

/-- A scalar that has been read: its text, where it ends, and whether a line ended behind it. -/
structure Scanned where
  text : String
  cursor : Cursor
  lineEnded : Bool

/-- Reads a scalar without quotes. Lines that continue it have at least the given indentation. -/
def Cursor.plain (inFlow : Bool) (indent : Int) (cursor : Cursor) : Option Scanned :=
  go .start cursor.line cursor.column cursor.rest
where
  /-- The scalar as it has been read. -/
  finish (folded : Folded) (cursor : Cursor) : Scanned :=
    ⟨String.ofList folded.text.reverse, cursor, folded.lineEnd != .none⟩
  /-- Reads on. -/
  go (folded : Folded) (line column : Nat) : List Char → Option Scanned
    | [] => some (finish folded ⟨[], line, column⟩)
    | c :: rest =>
      if isBlank c then
        if folded.lineEnd ≠ .none ∧ (column : Int) < indent ∧ c = '\t' then none
        else go (folded.pushBlank c) line (column + 1) rest
      else if isLineEnd c then go (folded.pushLineEnd c) (line + 1) 0 rest
      else if folded.isBroken &&
          ((!inFlow && decide ((column : Int) < indent)) || atDocumentMark column (c :: rest) ||
            c == '#') then
        some (finish folded ⟨c :: rest, line, column⟩)
      else if inFlow && c == ':' && rest.head?.any fun d => isFlowMark d || d == '?' then none
      else if (c == ':' && startsBlank rest) || (inFlow && isFlowMark c) then
        some (finish folded ⟨c :: rest, line, column⟩)
      else go (folded.push c) line (column + 1) rest

/-- Reads a scalar in single quotes, from behind the opening one. A quote inside is doubled. -/
def Cursor.singleQuoted (cursor : Cursor) : Option Scanned :=
  go .start cursor.line cursor.column cursor.rest
where
  /-- Reads on. -/
  go (folded : Folded) (line column : Nat) : List Char → Option Scanned
    | [] => none
    | '\'' :: '\'' :: rest => go (folded.push '\'') line (column + 2) rest
    | '\'' :: rest =>
      some ⟨String.ofList folded.settled.reverse, ⟨rest, line, column + 1⟩, false⟩
    | c :: rest =>
      if atDocumentMark column (c :: rest) then none
      else if isBlank c then go (folded.pushBlank c) line (column + 1) rest
      else if isLineEnd c then go (folded.pushLineEnd c) (line + 1) 0 rest
      else go (folded.push c) line (column + 1) rest

/-- The character with the given number, if there is one. -/
def charOf? (n : Nat) : Option Char :=
  if n.isValidChar then some (Char.ofNat n) else none

/-- What a character behind a backslash stands for, with the text behind it, and how many more
characters belong to it. -/
def escaped? (c : Char) (rest : List Char) : Option (Char × Nat) :=
  let short (c : Char) : Option (Char × Nat) := some (c, 0)
  let hex (digits : Nat) : Option (Char × Nat) :=
    if (rest.take digits).length < digits then none
    else ((naturalIn? 16 (rest.take digits)).bind charOf?).map fun c => (c, digits)
  match c with
  | '0' => short '\x00'
  | 'a' => short '\x07'
  | 'b' => short '\x08'
  | 't' | '\t' => short '\t'
  | 'n' => short '\n'
  | 'v' => short '\x0b'
  | 'f' => short '\x0c'
  | 'r' => short '\r'
  | 'e' => short '\x1b'
  | ' ' => short ' '
  | '"' => short '"'
  | '/' => short '/'
  | '\\' => short '\\'
  | 'N' => short '\u0085'
  | '_' => short '\u00a0'
  | 'L' => short '\u2028'
  | 'P' => short '\u2029'
  | 'x' => hex 2
  | 'u' => hex 4
  | 'U' => hex 8
  | _ => none

/-- Reads a scalar in double quotes, from behind the opening one. -/
def Cursor.doubleQuoted (cursor : Cursor) : Option Scanned :=
  go .start cursor.line cursor.column cursor.rest
where
  /-- Reads on. -/
  go (folded : Folded) (line column : Nat) (text : List Char) : Option Scanned :=
    match text with
    | [] => none
    | '"' :: rest =>
      some ⟨String.ofList folded.settled.reverse, ⟨rest, line, column + 1⟩, false⟩
    | '\\' :: c :: rest =>
      if isLineEnd c then go folded.escapeLineEnd (line + 1) 0 rest
      else
        match escaped? c rest with
        | none => none
        | some (c, n) => go (folded.push c) line (column + 2 + n) (rest.drop n)
    | c :: rest =>
      if atDocumentMark column (c :: rest) then none
      else if isBlank c then go (folded.pushBlank c) line (column + 1) rest
      else if isLineEnd c then go (folded.pushLineEnd c) (line + 1) 0 rest
      else go (folded.push c) line (column + 1) rest
  termination_by text.length
  decreasing_by all_goals simp <;> omega

end Payslip.Yaml
