/-!
# Letters regardless of case

Only the 26 ASCII letters have two cases here; every other character stands
for itself.

* `lower`, `upper`: a text with all its letters in one case.
* `sameLetters`: two texts agree up to the case of their letters.
* `screamingSnake`: a title as a constant is written, such as `LOCAL_ONE`.
-/

namespace Reattempt.Text

/-- The characters of a text, with ASCII capitals made small. -/
def lower (s : List Char) : List Char := s.map Char.toLower

/-- The characters of a text, with small ASCII letters made capital. -/
def upper (s : List Char) : List Char := s.map Char.toUpper

/-- Whether two texts agree up to the case of ASCII letters. -/
def sameLetters (s t : List Char) : Bool := lower s == lower t

/-- A title as constants are written: all in capitals, and each word after the first one, which a
capital begins, behind an underscore. -/
def screamingSnake (title : String) : String :=
  match title.toList with
  | [] => ""
  | c :: rest =>
    String.ofList (c.toUpper :: rest.flatMap fun d => if d.isUpper then ['_', d] else [d.toUpper])

end Reattempt.Text
