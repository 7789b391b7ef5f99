/-
# The tokens of JSON

A text is cut into tokens from its start. The first place where no token stands ends the tokens
with `broken`. A text in quotes is a token even when what it spells is no text, because half of
a surrogate pair or a stray byte is in it: that matters only to those who read it.
-/

import Payslip.Reading.Document
import Payslip.Text.Digits

namespace Payslip.Json

open Payslip.Text Payslip.Reading

/-- A token. -/
inductive Token
  | openList
  | closeList
  | openMap
  | closeMap
  | comma
  | colon
  | null
  | bool (value : Bool)
  | number (number : Number)
  | text (content : Option String)
  | broken
  deriving DecidableEq, Repr

/-- The four characters that may stand between tokens. -/
def isSpace (c : Option Char) : Bool :=
  c == some ' ' || c == some '\n' || c == some '\t' || c == some '\r'

/-- The digits at the start of a source, and the rest. -/
def digits (source : Source) : List Char × Source :=
  ((source.takeWhile (·.any isDigit)).filterMap id, source.dropWhile (·.any isDigit))

/-- The number that four hexadecimal digits stand for. -/
def hexWord? (a b c d : Option Char) : Option Nat := do
  naturalIn? 16 [← a, ← b, ← c, ← d]

/-- The first half of a surrogate pair. -/
def isHighSurrogate (unit : Nat) : Bool := 0xD800 ≤ unit && unit ≤ 0xDBFF

/-- The second half of a surrogate pair. -/
def isLowSurrogate (unit : Nat) : Bool := 0xDC00 ≤ unit && unit ≤ 0xDFFF

/-- The character of a surrogate pair. -/
def joinSurrogates (high low : Nat) : Char :=
  Char.ofNat (0x10000 + (high - 0xD800) * 1024 + (low - 0xDC00))

/-- The character that a letter behind a backslash stands for. -/
def escaped? : Char → Option Char
  | '"' => some '"'
  | '\\' => some '\\'
  | '/' => some '/'
  | 'b' => some '\x08'
  | 'f' => some '\x0c'
  | 'n' => some '\n'
  | 'r' => some '\r'
  | 't' => some '\t'
  | _ => none

/-- Reads a text behind its opening quote, up to the closing one. `taken` holds the characters so
far, latest first, or nothing once they spell no text. There is no result when the text has no
end or holds a control character or an unknown escape. -/
def quoted (taken : Option (List Char)) : Source → Option (Option String × Source)
  | [] => none
  | none :: rest => quoted none rest
  | some '"' :: rest => some (taken.map fun chars => String.ofList chars.reverse, rest)
  | some '\\' :: some 'u' :: a :: b :: c :: d :: rest =>
    match hexWord? a b c d with
    | none => none
    | some unit =>
      if isHighSurrogate unit then
        match _ : rest with
        | some '\\' :: some 'u' :: e :: f :: g :: h :: beyond =>
          match hexWord? e f g h with
          | none => none
          | some second =>
            if isLowSurrogate second then
              quoted (taken.map (joinSurrogates unit second :: ·)) beyond
            else quoted none rest
        | _ => quoted none rest
      else if isLowSurrogate unit then quoted none rest
      else quoted (taken.map (Char.ofNat unit :: ·)) rest
  | some '\\' :: some c :: rest =>
    match escaped? c with
    | none => none
    | some c => quoted (taken.map (c :: ·)) rest
  | some '\\' :: _ => none
  | some c :: rest =>
    if c.toNat < 0x20 then none else quoted (taken.map (c :: ·)) rest
termination_by source => source.length

/-- Reads the digits behind the point, if there is one. -/
def fraction (source : Source) : Option (Option (List Char) × Source) :=
  match source with
  | some '.' :: rest =>
    let (run, rest) := digits rest
    if run.isEmpty then none else some (some run, rest)
  | _ => some (none, source)

/-- Reads the exponent, if there is one. -/
def exponent (source : Source) : Option (Option (Bool × List Char) × Source) :=
  let signed (source : Source) : Bool × Source :=
    match source with
    | some '-' :: rest => (true, rest)
    | some '+' :: rest => (false, rest)
    | _ => (false, source)
  match source with
  | some 'e' :: rest | some 'E' :: rest =>
    let (negative, rest) := signed rest
    let (run, rest) := digits rest
    if run.isEmpty then none else some (some (negative, run), rest)
  | _ => some (none, source)

/-- Reads a number. Its whole part starts with a zero only if it is nothing else. -/
def number (source : Source) : Option (Number × Source) := do
  let (negative, rest) :=
    match source with
    | some '-' :: rest => (true, rest)
    | _ => (false, source)
  let (whole, rest) := digits rest
  if whole.isEmpty || (whole.head? == some '0' && whole != ['0']) then none
  else
    let (fraction, rest) ← fraction rest
    let (exponent, rest) ← exponent rest
    return (⟨negative, whole, fraction, exponent⟩, rest)

/-- The rest of a source behind a word at its start. -/
def word? : List Char → Source → Option Source
  | [], source => some source
  | c :: word, some d :: rest => if c = d then word? word rest else none
  | _ :: _, _ => none

/-- The token at the start of a source that begins with no space, and the rest behind it. -/
def token (source : Source) : Token × Source :=
  match source with
  | some '[' :: rest => (.openList, rest)
  | some ']' :: rest => (.closeList, rest)
  | some '\x7b' :: rest => (.openMap, rest)
  | some '\x7d' :: rest => (.closeMap, rest)
  | some ',' :: rest => (.comma, rest)
  | some ':' :: rest => (.colon, rest)
  | some '"' :: rest =>
    match quoted (some []) rest with
    | some (content, rest) => (.text content, rest)
    | none => (.broken, [])
  | some 't' :: _ => keyword "true" (.bool true)
  | some 'f' :: _ => keyword "false" (.bool false)
  | some 'n' :: _ => keyword "null" .null
  | _ =>
    match number source with
    | some (number, rest) => (.number number, rest)
    | none => (.broken, [])
where
  /-- The token of a word, if the source starts with it. -/
  keyword (word : String) (meaning : Token) : Token × Source :=
    match word? word.toList source with
    | some rest => (meaning, rest)
    | none => (.broken, [])

/-- Cuts a source into tokens. `taken` holds the tokens so far, latest first. Every token takes at
least one character, so `room` for as many tokens as there are characters is enough. -/
def tokensFrom (taken : List Token) : (room : Nat) → Source → List Token
  | 0, _ => taken.reverse
  | room + 1, source =>
    match source.dropWhile isSpace with
    | [] => taken.reverse
    | rest =>
      match token rest with
      | (.broken, _) => (.broken :: taken).reverse
      | (found, rest) => tokensFrom (found :: taken) room rest

/-- The tokens of a source. -/
def tokens (source : Source) : List Token := tokensFrom [] (source.length + 1) source

end Payslip.Json
