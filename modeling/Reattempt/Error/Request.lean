import Reattempt.Error.Attempt

/-!
# Request errors

What the caller gets when a request is given up.

* `RequestError.ofAttempt`: the error of a request that ends with the error of
  its last attempt.
* `RequestError.message`: the wording.
-/

namespace Reattempt

/-- The address of a target, in its written form. -/
structure Address where
  text : String
  deriving DecidableEq, Repr

/-- The error of a whole request. -/
inductive RequestError where
  /-- There was no target to try. -/
  | emptyPlan
  /-- The last attempt failed and was not retried. -/
  | lastAttempt (error : AttemptError)
  /-- The last attempt got no answer in time and was not retried. -/
  | requestTimeout (limit : Duration)
  /-- Every target was left for the next one; the error each was left with. -/
  | noHostAvailable (errors : List (Address × AttemptError))
  deriving DecidableEq, Repr

namespace RequestError

/-- The error of a request that is given up because of an attempt's error. -/
def ofAttempt : AttemptError → RequestError
  | .clientTimeout limit => requestTimeout limit
  | e => lastAttempt e

/-- The error of a request whose plan has run out, given what each target was left with. -/
def ofExhausted : List (Address × AttemptError) → RequestError
  | [] => emptyPlan
  | errors => noHostAvailable errors

/-- The errors target by target, when the plan has run out. -/
def targetErrors : RequestError → List (Address × AttemptError)
  | noHostAvailable errors => errors
  | _ => []

/-- The error of the last attempt, when the request ended with it. -/
def lastAttempt? : RequestError → Option AttemptError
  | lastAttempt e => some e
  | _ => none

/-- The short name of the kind of error. -/
def title : RequestError → String
  | emptyPlan => "EmptyPlan"
  | lastAttempt _ => "LastAttemptError"
  | requestTimeout _ => "RequestTimeout"
  | noHostAvailable _ => "NoHostAvailable"

/-- One target's address and error, as it stands in a list of them. -/
def targetText (entry : Address × AttemptError) : String :=
  entry.1.text ++ ": " ++ entry.2.message

/-- The wording of a request error. -/
def message : RequestError → String
  | emptyPlan => "Load balancing policy returned an empty plan"
  | lastAttempt e => e.message
  | requestTimeout limit => s!"Request timeout: {limit.text}"
  | noHostAvailable errors =>
    "All targets in the plan failed: [" ++ ", ".intercalate (errors.map targetText) ++ "]"

end RequestError

end Reattempt
