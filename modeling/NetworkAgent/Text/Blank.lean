/-!
# Blank text

A text is blank if it is made of white space alone. White space is what the character standard calls so:
the ASCII blanks and line ends, the no-break space, and the blanks and separators of other scripts.
-/

namespace NetworkAgent.Blank

/-- Whether a character is white space. -/
def isSpace (c : Char) : Bool :=
  let n := c.toNat
  (0x09 ≤ n && n ≤ 0x0D) || n == 0x20 || n == 0x85 || n == 0xA0 || n == 0x1680 ||
    (0x2000 ≤ n && n ≤ 0x200A) || n == 0x2028 || n == 0x2029 || n == 0x202F || n == 0x205F || n == 0x3000

/-- Whether a text is made of white space alone. -/
def isBlank (s : String) : Bool := s.toList.all isSpace

end NetworkAgent.Blank
