import Reattempt.Consistency.Basic
import Reattempt.Duration
import Reattempt.Text.Blank
import Reattempt.Text.Letter

/-!
# Queries

What a policy gets to see of a statement: its text and the options declared on
it.

* `Query.isSelect`: whether the text reads data.
-/

namespace Reattempt

/-- A text for the database with the options declared for it alone. -/
structure Query where
  text : String
  /-- The consistency level asked for, if the query asks for one. -/
  consistency : Option Consistency
  /-- Whether a replay is harmless, if the query declares it. -/
  isIdempotent : Option Bool
  /-- The limit of one attempt, if the query sets one. -/
  timeout : Option Duration
  deriving DecidableEq, Repr

namespace Query

/-- A query that declares nothing. -/
def ofText (text : String) : Query := ⟨text, none, none, none⟩

/-- Whether the text begins with `SELECT`, in any case and after any blanks. -/
def isSelect (q : Query) : Bool :=
  "SELECT".toList.isPrefixOf (Text.upper (Text.trimStart q.text.toList))

end Query

end Reattempt
