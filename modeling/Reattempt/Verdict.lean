import Reattempt.Decision
import Reattempt.Failure

/-!
# Verdicts

A verdict is a decision together with how it came about: which failures the
policy at the bottom was asked about, and what was remarked on the way.

* `Remark`: the remarks of policies.
* `Verdict.rethrown`: giving up without asking anyone.
-/

namespace Reattempt

/-- A remark made while a policy decides. -/
inductive Remark where
  /-- A logging layer saw this failure answered by something other than giving up. -/
  | handled (failure : Failure) (decision : Decision)
  /-- A policy without the extended categories was not asked, this decision stands in. -/
  | fallback (category : Category) (retryCount : Nat) (decision : Decision)
  /-- The level was lowered. -/
  | lowered (asked lower : Consistency)
  /-- A gate stopped the replay of a statement that is not idempotent. -/
  | notIdempotent
  deriving DecidableEq

/-- A decision and how it came about. -/
structure Verdict where
  decision : Decision
  /-- The failures that the policy below all layers was asked about. -/
  consulted : List Failure
  /-- The remarks, in the order they were made. -/
  remarks : List Remark
  deriving DecidableEq

/-- Giving up without asking anyone. -/
def Verdict.rethrown : Verdict := ⟨.rethrow, [], []⟩

end Reattempt
