/-!
Blank characters, those with the Unicode property White_Space, and what is done with them: trimming a
text at both ends and reading the first word of a line.
-/

namespace Bailiwick.Text

/-- The property White_Space; zero-width characters do not have it. -/
def isBlank (c : Char) : Bool :=
  let n := c.toNat
  (9 ≤ n && n ≤ 13) || n == 0x20 || n == 0x85 || n == 0xA0 || n == 0x1680 || (0x2000 ≤ n && n ≤ 0x200A)
    || n == 0x2028 || n == 0x2029 || n == 0x202F || n == 0x205F || n == 0x3000

/-- A text without the blanks at its start. -/
def trimStart (s : List Char) : List Char := s.dropWhile isBlank

/-- A text without the blanks at its end. -/
def trimEnd (s : List Char) : List Char := (s.reverse.dropWhile isBlank).reverse

/-- A text without the blanks at its two ends. -/
def trim (s : List Char) : List Char := trimEnd (trimStart s)

/-- The characters up to the first blank that follows one, after the blanks at the start. -/
def firstWord (s : List Char) : List Char := (trimStart s).takeWhile fun c => !isBlank c

end Bailiwick.Text
