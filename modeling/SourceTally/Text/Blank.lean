/-!
# Blank characters

Two notions of white space: the blanks of Unicode, which are trimmed from the ends of a text, and
the five blanks of ASCII that may stand between hexadecimal digits.

## Main definitions

* `Text.isBlank`: white space in Unicode
* `Text.isAsciiBlank`: space, tab, line feed, form feed and carriage return, without vertical tab
* `Text.trim`: a text without the blanks at its ends
-/

namespace SourceTally.Text

/-- White space in Unicode. -/
def isBlank (c : Char) : Bool :=
  let n := c.toNat
  (0x9 ≤ n && n ≤ 0xd) || n == 0x20 || n == 0x85 || n == 0xa0 || n == 0x1680 ||
    (0x2000 ≤ n && n ≤ 0x200a) || n == 0x2028 || n == 0x2029 || n == 0x202f || n == 0x205f ||
    n == 0x3000

/-- The blanks that may stand between hexadecimal digits. -/
def isAsciiBlank (c : Char) : Bool :=
  c == ' ' || c == '\t' || c == '\n' || c == '\x0c' || c == '\r'

def trimStart (text : List Char) : List Char := text.dropWhile isBlank

/-- A text without the blanks at its ends. -/
def trim (text : List Char) : List Char :=
  (trimStart (trimStart text).reverse).reverse

end SourceTally.Text
