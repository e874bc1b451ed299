/-!
# Write types

The step of a write that timed out, as the server names it.

* `WriteType.ofName`: every text is the name of a write type.
* `WriteType.name`: the name, which reads back.
-/

namespace Reattempt

/-- The step of a write that timed out. -/
inductive WriteType where
  /-- A write to one partition. -/
  | simple
  /-- A logged batch whose log had been written. -/
  | batch
  | unloggedBatch
  | counter
  /-- The log of a logged batch. -/
  | batchLog
  /-- A conditional write. -/
  | cas
  | view
  | cdc
  /-- A name that the protocol does not define. -/
  | other (name : String)
  deriving DecidableEq, Repr

namespace WriteType

/-- The write types that the protocol defines. -/
def defined : List WriteType :=
  [simple, batch, unloggedBatch, counter, batchLog, cas, view, cdc]

/-- The name of a write type in the protocol. -/
def name : WriteType → String
  | simple => "SIMPLE"
  | batch => "BATCH"
  | unloggedBatch => "UNLOGGED_BATCH"
  | counter => "COUNTER"
  | batchLog => "BATCH_LOG"
  | cas => "CAS"
  | view => "VIEW"
  | cdc => "CDC"
  | other s => s

/-- The write type of a name: the defined one of exactly that name, if there is one. -/
def ofName (s : String) : WriteType := (defined.find? (·.name == s)).getD (other s)

/-- Which kind of write type it is, in running text. -/
def title : WriteType → String
  | simple => "Simple"
  | batch => "Batch"
  | unloggedBatch => "UnloggedBatch"
  | counter => "Counter"
  | batchLog => "BatchLog"
  | cas => "Cas"
  | view => "View"
  | cdc => "Cdc"
  | other _ => "Other"

theorem name_ofName (s : String) : (ofName s).name = s := by
  unfold ofName
  cases h : defined.find? (·.name == s) with
  | none => rfl
  | some w => simpa using List.find?_some h

end WriteType

end Reattempt
