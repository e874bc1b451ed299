import Reattempt.Consistency.Basic
import Reattempt.Text.Hex
import Reattempt.WriteType

/-!
# Database errors

What a coordinator sends instead of a result: a quorum that was not reached,
with its counters; trouble of the coordinator itself; or a refusal.

* `DbError.message`: the wording of each error.
-/

namespace Reattempt

/-- Why a server refuses a request. -/
inductive RejectionReason where
  | syntaxError
  | invalid
  | alreadyExists
  | functionFailure
  | authentication
  | unauthorized
  | config
  | readFailure
  | writeFailure
  | unprepared
  | protocol
  deriving DecidableEq, Repr

namespace RejectionReason

/-- Every reason. -/
def reasons : List RejectionReason :=
  [syntaxError, invalid, alreadyExists, functionFailure, authentication, unauthorized, config,
   readFailure, writeFailure, unprepared, protocol]

/-- The short name of a reason. -/
def title : RejectionReason → String
  | syntaxError => "Syntax"
  | invalid => "Invalid"
  | alreadyExists => "AlreadyExists"
  | functionFailure => "FunctionFailure"
  | authentication => "Authentication"
  | unauthorized => "Unauthorized"
  | config => "Config"
  | readFailure => "ReadFailure"
  | writeFailure => "WriteFailure"
  | unprepared => "Unprepared"
  | protocol => "Protocol"

/-- The reason of a short name. -/
def ofTitle? (s : String) : Option RejectionReason := reasons.find? (·.title == s)

/-- The wording of a reason. -/
def message : RejectionReason → String
  | syntaxError => "syntax error"
  | invalid => "invalid statement"
  | alreadyExists => "already exists"
  | functionFailure => "function failure"
  | authentication => "authentication failed"
  | unauthorized => "unauthorized"
  | config => "configuration error"
  | readFailure => "read failure"
  | writeFailure => "write failure"
  | unprepared => "statement not prepared"
  | protocol => "protocol error"

end RejectionReason

/-- An error that the coordinator sends instead of a result. -/
inductive DbError where
  /-- Too few replicas were known to be alive, so nothing was attempted. -/
  | unavailable (consistency : Consistency) (required alive : Int)
  /-- Too few replicas answered a read in time. -/
  | readTimeout (consistency : Consistency) (received required : Int) (dataPresent : Bool)
  /-- Too few replicas acknowledged a write in time. -/
  | writeTimeout (consistency : Consistency) (received required : Int) (writeType : WriteType)
  | overloaded
  | bootstrapping
  | truncateFailed
  | internalError
  /-- A refusal: the same request gets the same answer everywhere. -/
  | rejected (reason : RejectionReason)
  /-- An error code that the protocol does not define. -/
  | other (code : Int32)
  deriving DecidableEq, Repr

namespace DbError

/-- The short name of the kind of error. -/
def title : DbError → String
  | unavailable .. => "Unavailable"
  | readTimeout .. => "ReadTimeout"
  | writeTimeout .. => "WriteTimeout"
  | overloaded => "Overloaded"
  | bootstrapping => "IsBootstrapping"
  | truncateFailed => "TruncateError"
  | internalError => "ServerError"
  | rejected _ => "Rejected"
  | other _ => "Other"

/-- The wording of a database error. -/
def message : DbError → String
  | unavailable c required alive =>
    s!"Not enough replicas alive to achieve consistency {c.title} " ++
      s!"(required: {required}, alive: {alive})"
  | readTimeout c received required dataPresent =>
    s!"Read timed out at consistency {c.title} " ++
      s!"(received: {received} of {required}, data present: {dataPresent})"
  | writeTimeout c received required w =>
    s!"{w.name} write timed out at consistency {c.title} " ++
      s!"(acknowledged: {received} of {required})"
  | overloaded => "The coordinator is overloaded"
  | bootstrapping => "The coordinator is still bootstrapping"
  | truncateFailed => "Truncate failed on the coordinator"
  | internalError => "Internal server error"
  | rejected reason => s!"The request was rejected: {reason.message}"
  | other code => s!"Unknown server error (code: {Text.hex code})"

end DbError

end Reattempt
