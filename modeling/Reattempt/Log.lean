import Reattempt.Error.Request
import Reattempt.Verdict

/-!
# Log entries

What a listener is told while a request is executed, as events of the domain,
and how each is written as a log entry. Two spans group the entries: one for a
request, and inside it one for each target taken from the plan.

* `Event`: what happens during a request.
* `Event.entry`, `Remark.entry`: the log entry of an event, of a remark.
* `Entry.isVisible`: whether an entry is told at a severity.
-/

namespace Reattempt

/-- How important an entry is. -/
inductive Severity where
  | info
  | debug
  | trace
  deriving DecidableEq, Repr

namespace Severity

/-- The written form of a severity. -/
def text : Severity → String
  | info => "INFO"
  | debug => "DEBUG"
  | trace => "TRACE"

/-- The more important, the lower. -/
def rank : Severity → Nat
  | info => 0
  | debug => 1
  | trace => 2

end Severity

/-- A named value of an entry. -/
structure Field where
  name : String
  value : String
  deriving DecidableEq, Repr

/-- One entry of a log. -/
inductive Entry where
  /-- A span begins, with the fields known by then. -/
  | span (name : String) (fields : List Field)
  /-- A span gets one more field. -/
  | record (span : String) (field : Field)
  /-- Something happened, inside a span or outside all of them. -/
  | event (severity : Severity) (message : Option String) (fields : List Field)
      (span : Option String)
  deriving DecidableEq, Repr

namespace Entry

/-- The severity of an entry; spans and their fields are traced only. -/
def severity : Entry → Severity
  | span .. | record .. => .trace
  | event s .. => s

/-- Whether an entry is told to a listener who asked for a severity. -/
def isVisible (asked : Severity) (e : Entry) : Bool := e.severity.rank ≤ asked.rank

end Entry

/-- The name of the span of a request. -/
def requestSpan : String := "Request"

/-- The name of the span of a target. -/
def targetSpan : String := "Executing request"

namespace Failure

/-- The message with which a logging layer tells of an answered failure. -/
def handledMessage (f : Failure) : String :=
  match f.category with
  | .readTimeout => "Read timeout handled by the retry policy"
  | .writeTimeout => "Write timeout handled by the retry policy"
  | .unavailable => "Unavailable error handled by the retry policy"
  | .clientTimeout => "Client timeout handled by the retry policy"
  | .connectionError => "Connection error handled by the retry policy"
  | .unexpectedError => "Unexpected error handled by the retry policy"

/-- What is known of a cause, as fields. -/
def causeFields (f : Failure) : List Field :=
  match f.cause with
  | .readTimeout required received dataRetrieved =>
    [⟨"required", toString required⟩, ⟨"received", toString received⟩,
     ⟨"data_retrieved", toString dataRetrieved⟩]
  | .writeTimeout writeType required received =>
    [⟨"write_type", writeType.name⟩, ⟨"required", toString required⟩,
     ⟨"received", toString received⟩]
  | .unavailable required alive =>
    [⟨"required", toString required⟩, ⟨"alive", toString alive⟩]
  | .clientTimeout => []
  | .connectionError reason => [⟨"error", reason.message⟩]
  | .unexpectedError error => [⟨"error", error.message⟩]

end Failure

namespace Remark

/-- The severity of a remark. -/
def severity : Remark → Severity
  | handled .. => .info
  | fallback .. | lowered .. => .debug
  | notIdempotent => .trace

/-- The log entry of a remark, made inside the given span. -/
def entry (span : Option String) (r : Remark) : Entry :=
  match r with
  | handled f d =>
    .event r.severity (some f.handledMessage)
      (⟨"consistency", f.consistency.title⟩ :: f.causeFields ++
        [⟨"retry_count", toString f.retryCount⟩, ⟨"decision", d.text⟩])
      span
  | fallback category retryCount d =>
    .event r.severity
      (some "Configured retry policy does not handle this failure, applied the fallback")
      [⟨"category", category.text⟩, ⟨"retry_count", toString retryCount⟩, ⟨"decision", d.text⟩]
      span
  | lowered asked lower =>
    .event r.severity
      (some ("Decided to lower required consistency from " ++ asked.title ++ " to " ++
        Decision.levelText (some lower) ++ "."))
      [] span
  | notIdempotent =>
    .event r.severity (some "Statement is not idempotent, not retrying") [] span

end Remark

/-- What happens during a request. -/
inductive Event where
  /-- The request begins, at the level found for it. -/
  | opened (text : String) (consistency : Consistency)
  /-- A target is taken from the plan. -/
  | taken (address : Address)
  | started (consistency : Consistency) (retryCount : Nat)
  | succeeded
  | failed (error : AttemptError)
  | remarked (remark : Remark)
  /-- The policy's own decision, before the limit on retries is applied. -/
  | decided (decision : Decision)
  /-- A retry that the limit forbids. -/
  | limited (retryCount maxRetries : Nat)
  /-- The number of retries, once the request is over. -/
  | retried (retryCount : Nat)
  | completed
  | ignored
  /-- The request is marked as failed. -/
  | marked
  | reported (error : RequestError)
  | finished
  deriving DecidableEq

namespace Event

/-- The log entry of an event. -/
def entry : Event → Entry
  | opened text c =>
    .span requestSpan [⟨"kind", "unprepared"⟩, ⟨"contents", text⟩, ⟨"consistency", c.title⟩]
  | taken address => .span targetSpan [⟨"node", address.text⟩]
  | started c n =>
    .event .trace (some "Execution started")
      [⟨"consistency", c.title⟩, ⟨"retry_count", toString n⟩] (some targetSpan)
  | succeeded => .event .trace (some "Request succeeded") [] (some targetSpan)
  | failed e =>
    .event .trace (some "Request failed") [⟨"last_error", e.message⟩] (some targetSpan)
  | remarked r => r.entry (some requestSpan)
  | decided d => .event .trace none [⟨"retry_decision", d.text⟩] (some targetSpan)
  | limited n limit =>
    .event .debug (some "Retry limit reached, rethrowing the last error")
      [⟨"retry_count", toString n⟩, ⟨"max_retries", toString limit⟩] (some targetSpan)
  | retried n => .record requestSpan ⟨"retries", toString n⟩
  | completed => .record requestSpan ⟨"outcome", "completed"⟩
  | ignored => .record requestSpan ⟨"outcome", "ignored"⟩
  | marked => .record requestSpan ⟨"otel.status_code", "ERROR"⟩
  | reported e => .record requestSpan ⟨"otel.status_message", e.message⟩
  | finished => .event .debug (some "Finished with error") [] (some requestSpan)

end Event

end Reattempt
