import Reattempt.Consistency.Serial
import Reattempt.Document
import Reattempt.Text.Blank
import Reattempt.Text.Letter

/-!
# Reading consistency levels

Levels are read from free text, where blanks around the name and the case of
its letters do not matter, and from documents, where a level goes by its title
written as a constant is, and this is exact.

* `Consistency.parse?`: a level from free text.
* `Consistency.ofDocument?`: a level from a document.
* `SerialConsistency.ofDocument?`: a serial level from a document.
-/

namespace Reattempt

/-- A text that names no consistency level, kept as it was given. -/
structure UnknownLevel where
  text : String
  deriving DecidableEq

/-- The wording of a text that names no level. -/
def UnknownLevel.message (e : UnknownLevel) : String :=
  "Unknown consistency level: '" ++ e.text ++ "'"

/-- The name a document chooses among names without contents: a text, or an
object whose only field holds nothing. -/
def Document.choice? : Document → Option String
  | .text s => some s
  | .object [(key, .null)] => some key
  | _ => none

/-- The level whose name a text is, up to blanks around it and the case of letters. -/
def Consistency.parse? (s : String) : Except UnknownLevel Consistency :=
  match levels.find? fun c => Text.sameLetters c.name.toList (Text.trim s.toList) with
  | some c => .ok c
  | none => .error ⟨s⟩

/-- The level that a document chooses by its title, written as a constant is. -/
def Consistency.ofDocument? (d : Document) : Option Consistency :=
  d.choice?.bind fun s => levels.find? (Text.screamingSnake ·.title == s)

/-- The serial level that a document chooses by its title, written as a constant is. -/
def SerialConsistency.ofDocument? (d : Document) : Option SerialConsistency :=
  d.choice?.bind fun s => levels.find? (Text.screamingSnake ·.title == s)

end Reattempt
