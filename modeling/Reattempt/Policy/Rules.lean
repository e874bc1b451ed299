import Reattempt.Decision
import Reattempt.Failure

/-!
# Rule tables

A policy given as a list of rules: the first rule that fits a failure decides.

* `Rule.fits`: whether a rule speaks of a failure.
* `Rule.decide`: the decision of the first fitting rule.
-/

namespace Reattempt

/-- A decision for the failures of one category, or of one retry count, or of both. -/
structure Rule where
  category : Option Category
  retryCount : Option Nat
  decision : Decision
  deriving DecidableEq, Repr

namespace Rule

/-- Whether all that a rule asks for holds of a failure. -/
def fits (r : Rule) (f : Failure) : Bool :=
  r.category.all (· == f.category) && r.retryCount.all (· == f.retryCount)

/-- The decision of the first rule that fits, or the one for all other failures. -/
def decide (rules : List Rule) (otherwise : Decision) (f : Failure) : Decision :=
  ((rules.find? (·.fits f)).map Rule.decision).getD otherwise

end Rule

end Reattempt
