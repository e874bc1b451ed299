import Reattempt.Decision
import Reattempt.Failure

/-!
# Stock policies

Three ways to answer a failure.

* `Stock.standard`: retries once, and only where a retry has good chances.
* `Stock.downgrading`: also lowers the level to what the replicas can serve.
* `Stock.fallthrough`: never retries.
* `Stock.served?`: the highest numbered level that some replicas can serve.
-/

namespace Reattempt.Stock

/-- Retries once where it is likely to help: at the same target when enough replicas answered
without data or a batch log was being written, at the next one when replicas were missing. A
trouble of one target always leads to the next target. -/
def standard (f : Failure) : Decision :=
  match f.cause with
  | .readTimeout required received dataRetrieved =>
    if f.retryCount = 0 ∧ required ≤ received ∧ dataRetrieved = false then .retrySameTarget none
    else .rethrow
  | .writeTimeout writeType _ _ =>
    if f.retryCount = 0 ∧ writeType = .batchLog then .retrySameTarget none else .rethrow
  | .unavailable _ _ => if f.retryCount = 0 then .retryNextTarget none else .rethrow
  | .clientTimeout | .connectionError _ | .unexpectedError _ => .retryNextTarget none

/-- The highest of the levels one, two and three that so many replicas can serve. -/
def served? (replicas : Int) : Option Consistency :=
  if 3 ≤ replicas then some .three
  else if replicas = 2 then some .two
  else if replicas = 1 then some .one
  else none

/-- A retry at the highest level that the replicas known to work can serve. The count is local
to one datacenter for `eachQuorum`, so even with none there may be one elsewhere. -/
def lowered (known : Int) (asked : Consistency) : Decision :=
  match served? known with
  | some c => .retrySameTarget (some c)
  | none => if asked = .eachQuorum then .retrySameTarget (some .one) else .rethrow

/-- Retries once, at a lower level where the asked one is out of reach. A serial level is never
lowered. -/
def downgrading (f : Failure) : Decision :=
  match f.cause with
  | .readTimeout required received dataRetrieved =>
    if 0 < f.retryCount ∨ f.consistency.isSerial then .rethrow
    else if received < required then lowered received f.consistency
    else if dataRetrieved then .rethrow
    else .retrySameTarget none
  | .writeTimeout writeType _ received =>
    if 0 < f.retryCount then .rethrow
    else match writeType with
      | .simple | .batch => if 0 < received then .ignore else .rethrow
      | .unloggedBatch => lowered received f.consistency
      | .batchLog => .retrySameTarget none
      | .counter | .cas | .view | .cdc | .other _ => .rethrow
  | .unavailable _ alive =>
    if 0 < f.retryCount then .rethrow
    else if f.consistency.isSerial then .retryNextTarget none
    else lowered alive f.consistency
  | .clientTimeout | .connectionError _ | .unexpectedError _ => .retryNextTarget none

/-- Gives every error back. -/
def fallthrough (_ : Failure) : Decision := .rethrow

end Reattempt.Stock
