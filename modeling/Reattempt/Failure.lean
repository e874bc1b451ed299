import Reattempt.Error.Attempt
import Reattempt.Query

/-!
# Failures

A failed attempt as a retry policy sees it. There are six categories. Three
come with the counters of a coordinator that missed its quorum; the other
three are troubles outside the quorum logic. Some errors belong to none of
them: the same request would get the same answer again.

* `Cause`, `Cause.category`: what is known of a failure, and its category.
* `Category.isQuorum`: the three categories that every policy can answer.
* `Category.mayHaveApplied`: the categories after which a write may stand.
* `Failure.ofError?`: the failure that an attempt's error amounts to.
-/

namespace Reattempt

/-- The kind of question a retry policy is asked. -/
inductive Category where
  | readTimeout
  | writeTimeout
  | unavailable
  | clientTimeout
  | connectionError
  | unexpectedError
  deriving DecidableEq, Repr

namespace Category

/-- Whether the coordinator reported how its quorum was missed. -/
def isQuorum : Category → Bool
  | readTimeout | writeTimeout | unavailable => true
  | clientTimeout | connectionError | unexpectedError => false

/-- Whether a write may have been applied although the attempt failed. -/
def mayHaveApplied : Category → Bool
  | writeTimeout | clientTimeout | unexpectedError => true
  | readTimeout | unavailable | connectionError => false

/-- The name of a category in running text. -/
def text : Category → String
  | readTimeout => "read timeout"
  | writeTimeout => "write timeout"
  | unavailable => "unavailable"
  | clientTimeout => "client timeout"
  | connectionError => "connection error"
  | unexpectedError => "unexpected error"

end Category

/-- What is known about why an attempt failed. -/
inductive Cause where
  | readTimeout (required received : Int) (dataRetrieved : Bool)
  | writeTimeout (writeType : WriteType) (required received : Int)
  | unavailable (required alive : Int)
  | clientTimeout
  | connectionError (reason : BrokenConnection)
  | unexpectedError (error : AttemptError)
  deriving DecidableEq, Repr

/-- The category of a cause. -/
def Cause.category : Cause → Category
  | readTimeout .. => .readTimeout
  | writeTimeout .. => .writeTimeout
  | unavailable .. => .unavailable
  | clientTimeout => .clientTimeout
  | connectionError _ => .connectionError
  | unexpectedError _ => .unexpectedError

/-- A failed attempt as a retry policy sees it. -/
structure Failure where
  query : Query
  /-- The level the server reported, or the attempt's own where it reported none. -/
  consistency : Consistency
  /-- How many retries the request has had before. -/
  retryCount : Nat
  cause : Cause
  deriving DecidableEq, Repr

namespace Failure

/-- The category of a failure. -/
def category (f : Failure) : Category := f.cause.category

/-- What a database error says to a policy, with the level it speaks of where it names one.
A refusal and an unknown code say nothing. -/
def ofDb? (error : AttemptError) : DbError → Option (Option Consistency × Cause)
  | .readTimeout c received required data => some (some c, .readTimeout required received data)
  | .writeTimeout c received required w => some (some c, .writeTimeout w required received)
  | .unavailable c required alive => some (some c, .unavailable required alive)
  | .overloaded | .internalError | .truncateFailed | .bootstrapping =>
    some (none, .unexpectedError error)
  | .rejected _ | .other _ => none

/-- What an attempt's error says to a policy. -/
def cause? (error : AttemptError) : Option (Option Consistency × Cause) :=
  match error with
  | .db e _ => ofDb? error e
  | .brokenConnection reason => some (none, .connectionError reason)
  | .noFreeStream => some (none, .unexpectedError error)
  | .clientTimeout _ => some (none, .clientTimeout)

/-- The failure that an attempt's error amounts to, if a policy is to be asked about it. -/
def ofError? (query : Query) (consistency : Consistency) (retryCount : Nat)
    (error : AttemptError) : Option Failure :=
  (cause? error).map fun (reported, cause) =>
    ⟨query, reported.getD consistency, retryCount, cause⟩

end Failure

end Reattempt
