/-!
# Blanks

The characters that count as white space, and texts without blanks at their ends.
-/

namespace ChecklistReview.Text

/-- White space: the characters of Unicode's classes for spaces and separators, with the
control characters that separate lines, fields and records. -/
def isBlank (c : Char) : Bool :=
  let n := c.toNat
  (0x9 ≤ n && n ≤ 0xd) || (0x1c ≤ n && n ≤ 0x20) || n = 0x85 || n = 0xa0 || n = 0x1680 ||
    (0x2000 ≤ n && n ≤ 0x200a) || n = 0x2028 || n = 0x2029 || n = 0x202f || n = 0x205f || n = 0x3000

/-- A text without the blanks at its start. -/
def stripLeft (text : List Char) : List Char := text.dropWhile isBlank

/-- A text without the blanks at its end. -/
def stripRight (text : List Char) : List Char := (text.reverse.dropWhile isBlank).reverse

/-- A text without the blanks at both ends. -/
def strip (text : List Char) : List Char := stripRight (stripLeft text)

end ChecklistReview.Text
