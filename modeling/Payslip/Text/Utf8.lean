/-
# Bytes as characters

Bytes that are sent as text need not be text. They are taken apart into characters and into
bytes that belong to none, so that whoever reads them decides where such a byte matters.
-/

namespace Payslip.Text

/-- A text as it was sent: its characters, with `none` for every byte that belongs to none. -/
abbrev Source := List (Option Char)

/-- A text that is known to be one. -/
def Source.ofString (text : String) : Source := text.toList.map some

namespace Utf8

/-- The byte continues a character. -/
def isTail (b : UInt8) : Bool := 0x80 ≤ b && b ≤ 0xBF

/-- The six low bits of a byte that continues a character. -/
def tailBits (b : UInt8) : Nat := b.toNat % 64

/-- A character of two bytes. -/
def pair? (a b : UInt8) : Option Char :=
  if 0xC2 ≤ a && a ≤ 0xDF && isTail b then
    some (Char.ofNat ((a.toNat % 32) * 64 + tailBits b))
  else none

/-- A character of three bytes; the second byte is bounded so that neither a shorter form nor a
surrogate is spelled. -/
def triple? (a b c : UInt8) : Option Char :=
  let second := (a == 0xE0 && 0xA0 ≤ b && b ≤ 0xBF) || (0xE1 ≤ a && a ≤ 0xEC && isTail b) ||
    (a == 0xED && 0x80 ≤ b && b ≤ 0x9F) || (0xEE ≤ a && a ≤ 0xEF && isTail b)
  if second && isTail c then
    some (Char.ofNat ((a.toNat % 16) * 4096 + tailBits b * 64 + tailBits c))
  else none

/-- A character of four bytes; the second byte is bounded so that neither a shorter form nor a
number beyond the last character is spelled. -/
def quadruple? (a b c d : UInt8) : Option Char :=
  let second := (a == 0xF0 && 0x90 ≤ b && b ≤ 0xBF) || (0xF1 ≤ a && a ≤ 0xF3 && isTail b) ||
    (a == 0xF4 && 0x80 ≤ b && b ≤ 0x8F)
  if second && isTail c && isTail d then
    some (Char.ofNat
      ((a.toNat % 8) * 262144 + tailBits b * 4096 + tailBits c * 64 + tailBits d))
  else none

/-- The first character of some bytes, if they start with one, and how many bytes behind the
first it takes. -/
def first? : List UInt8 → Option (Char × Nat)
  | [] => none
  | a :: rest =>
    if a < 0x80 then some (Char.ofNat a.toNat, 0)
    else
      match rest with
      | b :: c :: d :: _ =>
        ((pair? a b).map (·, 1)) <|> ((triple? a b c).map (·, 2)) <|>
          ((quadruple? a b c d).map (·, 3))
      | b :: c :: _ => ((pair? a b).map (·, 1)) <|> ((triple? a b c).map (·, 2))
      | b :: _ => (pair? a b).map (·, 1)
      | [] => none

/-- Takes bytes apart from the first to the last. `skip` counts the bytes that belong to the
character before, and `taken` holds what has been read, latest first. -/
def run (taken : Source) (skip : Nat) : List UInt8 → Source
  | [] => taken.reverse
  | byte :: rest =>
    match skip with
    | skip + 1 => run taken skip rest
    | 0 =>
      match first? (byte :: rest) with
      | some (c, more) => run (some c :: taken) more rest
      | none => run (none :: taken) 0 rest

end Utf8

/-- The characters of some bytes. -/
def Source.ofBytes (bytes : List UInt8) : Source := Utf8.run [] 0 bytes

/-- The text that a source holds, if all of it is text. -/
def Source.text? (source : Source) : Option String := (source.mapM id).map String.ofList

end Payslip.Text
