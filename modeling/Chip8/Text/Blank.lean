set_option autoImplicit false

/-! # Blanks around a number

The white space that may stand before and after a number in a text: the six blank characters of
ASCII and the spaces and separators of Unicode above it. The four information separators of
ASCII (code points 28 to 31) are not among them.
-/

namespace Chip8.Blank

/-- The blanks of ASCII: tab, line feed, vertical tab, form feed, carriage return and space. -/
def isAsciiBlank (c : Char) : Bool := c == ' ' || (9 ≤ c.toNat && c.toNat ≤ 13)

/-- The blanks above ASCII. -/
def wide : List Nat := [
  0x85, 0xA0, 0x1680, 0x2000, 0x2001, 0x2002, 0x2003, 0x2004, 0x2005, 0x2006, 0x2007, 0x2008,
  0x2009, 0x200A, 0x2028, 0x2029, 0x202F, 0x205F, 0x3000]

/-- Whether `c` may stand around a number. -/
def isBlank (c : Char) : Bool := isAsciiBlank c || wide.contains c.toNat

end Chip8.Blank
