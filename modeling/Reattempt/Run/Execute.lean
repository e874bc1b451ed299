import Reattempt.Run.Loop

/-!
# Executing requests

An executor has a handle for the statements that bring none. The profile is
read once, when the request begins; flags are read at every decision.

* `Executor.context`: the terms of a request, as the store is when it begins.
* `Executor.execute`: the run of a request, with all its events.
-/

namespace Reattempt

/-- What executes requests. -/
structure Executor where
  /-- The profile handle of statements without their own. -/
  handle : Handle

/-- The events that tell how a request ended. -/
def Result.events {ρ : Type} : Result ρ → List Event
  | completed _ => [.completed]
  | ignored => [.ignored]
  | failed e => [.marked, .reported e, .finished]
  | unfinished => []

/-- Where a request begins. -/
def Cursor.start {σ : Type} (consistency : Consistency) (store : Store) (state : σ) : Cursor σ :=
  ⟨0, consistency, 0, [], ⟨0⟩, store, state⟩

namespace Executor

variable {σ τ ρ : Type}

/-- The terms of a request, read from the store as it is when the request begins. -/
def context (x : Executor) (statement : Statement) (patience : Option Duration) (store : Store) :
    Context :=
  ⟨statement.terms (store.profile (statement.chosen x.handle)), patience⟩

/-- **Execute a statement over a plan of targets.** -/
def execute (x : Executor) (statement : Statement) (plan : Plan τ) (cluster : Cluster σ τ ρ)
    (patience : Option Duration) (store : Store) (state : σ) : Run σ τ ρ :=
  let ctx := x.context statement patience store
  let level := ctx.terms.consistency
  let r := runFrom ctx plan cluster (.start level store state)
  { r with events := .opened statement.query.text level :: r.events ++ r.result.events }

end Executor

end Reattempt
