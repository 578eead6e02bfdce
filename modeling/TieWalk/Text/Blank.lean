/-!
# Blank characters and trimming

A character is blank when it has the Unicode property White_Space: the ASCII controls from tab to carriage return, the
space, and seventeen characters beyond ASCII, among them the no-break space and the ideographic space. `trim` takes the
blank characters off both ends of a text and nothing else: the zero-width space and the byte order mark are not blank.
-/

namespace TieWalk.Text

/-- The characters of the Unicode property White_Space. -/
def isBlank (c : Char) : Bool :=
  let n := c.toNat
  (9 ≤ n && n ≤ 13) || n == 0x20 || n == 0x85 || n == 0xA0 || n == 0x1680 || (0x2000 ≤ n && n ≤ 0x200A) ||
    n == 0x2028 || n == 0x2029 || n == 0x202F || n == 0x205F || n == 0x3000

/-- The characters between the first and the last that are not blank. -/
def trimChars (cs : List Char) : List Char :=
  ((cs.dropWhile isBlank).reverse.dropWhile isBlank).reverse

/-- A text without the blank characters at its ends. -/
def trim (s : String) : String := String.ofList (trimChars s.toList)

/-- A text that holds nothing but blank characters, if anything. -/
def isAllBlank (s : String) : Bool := s.toList.all isBlank

/-- Two texts that differ at most in the case of ASCII letters. -/
def sameIgnoringCase (a b : String) : Bool := a.toList.map Char.toLower == b.toList.map Char.toLower

/-- A text with its ASCII capitals made small; every other character is kept. -/
def lowercase (s : String) : String := String.ofList (s.toList.map Char.toLower)

end TieWalk.Text
