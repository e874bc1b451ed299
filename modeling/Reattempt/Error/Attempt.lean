import Reattempt.Duration
import Reattempt.Error.Database

/-!
# Attempt errors

Why one attempt of a request failed: the database answered with an error, the
connection broke, no stream was free, or no answer came in time.

* `AttemptError.dbError?`: the database error inside, if there is one.
* `AttemptError.message`: the wording.
-/

namespace Reattempt

/-- The common kinds of input and output errors. -/
inductive IoKind where
  | connectionReset
  | connectionRefused
  | brokenPipe
  | unexpectedEof
  | timedOut
  deriving DecidableEq, Repr

namespace IoKind

/-- Every kind. -/
def kinds : List IoKind := [connectionReset, connectionRefused, brokenPipe, unexpectedEof, timedOut]

/-- The short name of a kind. -/
def title : IoKind → String
  | connectionReset => "ConnectionReset"
  | connectionRefused => "ConnectionRefused"
  | brokenPipe => "BrokenPipe"
  | unexpectedEof => "UnexpectedEof"
  | timedOut => "TimedOut"

/-- The kind of a short name. -/
def ofTitle? (s : String) : Option IoKind := kinds.find? (·.title == s)

/-- The wording of an error of which only the kind is known. -/
def text : IoKind → String
  | connectionReset => "connection reset"
  | connectionRefused => "connection refused"
  | brokenPipe => "broken pipe"
  | unexpectedEof => "unexpected end of file"
  | timedOut => "timed out"

end IoKind

/-- Why a connection broke. -/
inductive BrokenConnection where
  | connectTimedOut
  | orphanedStreams (count : UInt16)
  | channelClosed
  /-- An input or output error with its own text. -/
  | ioError (text : String)
  deriving DecidableEq, Repr

namespace BrokenConnection

/-- The short name of the kind of reason. -/
def title : BrokenConnection → String
  | connectTimedOut => "ConnectTimeout"
  | orphanedStreams _ => "TooManyOrphanedStreamIds"
  | channelClosed => "ChannelError"
  | ioError _ => "IoError"

/-- The wording of the reason alone. -/
def reason : BrokenConnection → String
  | connectTimedOut => "Timed out while establishing a connection"
  | orphanedStreams count => s!"Too many orphaned stream ids: {count.toNat}"
  | channelClosed => "Failed to send/receive data needed to perform a request via tokio channel."
  | ioError text => "IO Error: " ++ text

/-- The wording of a broken connection. -/
def message (b : BrokenConnection) : String := "Connection broken, reason: " ++ b.reason

end BrokenConnection

/-- Why one attempt of a request failed. -/
inductive AttemptError where
  /-- The database answered with an error and a message of its own. -/
  | db (error : DbError) (text : String)
  /-- The connection broke before an answer came. -/
  | brokenConnection (reason : BrokenConnection)
  /-- The connection had no free stream. -/
  | noFreeStream
  /-- No answer came within the client's own limit. -/
  | clientTimeout (limit : Duration)
  deriving DecidableEq, Repr

namespace AttemptError

/-- The database error inside an attempt error. -/
def dbError? : AttemptError → Option DbError
  | db e _ => some e
  | _ => none

/-- The short name of the kind of error. -/
def title : AttemptError → String
  | db .. => "DbError"
  | brokenConnection _ => "BrokenConnectionError"
  | noFreeStream => "UnableToAllocStreamId"
  | clientTimeout _ => "ClientTimeout"

/-- The short name of what an attempt error carries, where that has kinds of its own. -/
def detail? : AttemptError → Option String
  | db e _ => some e.title
  | brokenConnection b => some b.title
  | noFreeStream => none
  | clientTimeout _ => none

/-- The wording of an attempt error. -/
def message : AttemptError → String
  | db e text => s!"Database returned an error: {e.message}, Error message: {text}"
  | brokenConnection b => b.message
  | noFreeStream => "Unable to allocate stream id"
  | clientTimeout limit => s!"Client timeout: no response within {limit.text}"

end AttemptError

end Reattempt
