/-
# Blank text

White space as Unicode has it (the property `White_Space`), and texts that hold nothing else.
-/

namespace Payslip.Text

/-- The character is white space. -/
def isBlankChar (c : Char) : Bool :=
  let n := c.toNat
  (0x09 ≤ n && n ≤ 0x0D) || n == 0x20 || n == 0x85 || n == 0xA0 || n == 0x1680 ||
    (0x2000 ≤ n && n ≤ 0x200A) || n == 0x2028 || n == 0x2029 || n == 0x202F || n == 0x205F ||
    n == 0x3000

/-- The text holds nothing but white space. -/
def isBlank (text : String) : Bool := text.toList.all isBlankChar

end Payslip.Text
