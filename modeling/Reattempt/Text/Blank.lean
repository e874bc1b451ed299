/-!
# Blank characters

The characters of Unicode's `White_Space` property, and texts without them at
their ends.

* `isBlank`: membership in the property.
* `trimStart`, `trim`: a text without the blanks at its start, at both ends.
-/

namespace Reattempt.Text

/-- The 25 characters with the property `White_Space`, in code point order. -/
def blanks : List Char :=
  ['\t', '\n', '\x0b', '\x0c', '\r', ' ', '\u0085', '\u00a0', '\u1680',
   '\u2000', '\u2001', '\u2002', '\u2003', '\u2004', '\u2005', '\u2006', '\u2007',
   '\u2008', '\u2009', '\u200a', '\u2028', '\u2029', '\u202f', '\u205f', '\u3000']

/-- Whether a character is blank. -/
def isBlank (c : Char) : Bool := blanks.contains c

/-- The characters from the first that is not blank on. -/
def trimStart (s : List Char) : List Char := s.dropWhile isBlank

/-- The characters without the blanks at both ends. -/
def trim (s : List Char) : List Char := (trimStart (trimStart s).reverse).reverse

end Reattempt.Text
