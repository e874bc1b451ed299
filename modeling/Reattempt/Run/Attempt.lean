import Reattempt.Log
import Reattempt.Statement

/-!
# Attempts

One attempt of a request at one target. The cluster of targets is a parameter:
it may answer in any way that depends on what it was asked before, and each
call may write to shared places.

* `Cluster`, `Reply`: how targets answer.
* `awaited`: the outcome of an answer under a limit in time.
* `Attempt`: the record of one attempt; `Attempt.events` are its events.
* `Cursor`: where a run stands; `Cursor.attempt` makes one attempt there.
* `Outcome.verdict?`: what the policy said to a failed attempt.
-/

namespace Reattempt

/-- How a target answers one call: what it writes to shared places at once, and its answer with
the time it takes, unless it never answers. -/
structure Reply (ρ : Type) where
  effects : List Effect
  answer : Option (Duration × Except AttemptError ρ)

/-- The targets of requests. The state `σ` is all that they remember of earlier calls. -/
structure Cluster (σ τ ρ : Type) where
  address : τ → Address
  call : σ → τ → Consistency → Reply ρ × σ

/-- The outcome of an answer and the time spent on it. Under a limit, no answer by then is a
client timeout; an answer at the last moment counts. -/
def awaited {ρ : Type} (limit : Option Duration)
    (answer : Option (Duration × Except AttemptError ρ)) :
    Option (Duration × Except AttemptError ρ) :=
  match limit, answer with
  | none, _ => answer
  | some t, some (d, r) => if d ≤ t then some (d, r) else some (t, .error (.clientTimeout t))
  | some t, none => some (t, .error (.clientTimeout t))

/-- How one attempt ended. -/
inductive Outcome (ρ : Type) where
  | answered (response : ρ)
  /-- The attempt failed, and this is what the policy said. -/
  | failed (error : AttemptError) (verdict : Verdict)
  /-- The attempt was still under way when the caller stopped waiting. -/
  | pending

/-- What the policy said to a failed attempt. -/
def Outcome.verdict? {ρ : Type} : Outcome ρ → Option Verdict
  | failed _ v => some v
  | _ => none

/-- The record of one attempt. -/
structure Attempt (τ ρ : Type) where
  /-- The target's position in the plan. -/
  position : Nat
  target : τ
  consistency : Consistency
  /-- How many retries there were before. -/
  retryCount : Nat
  /-- What the call wrote to shared places. -/
  effects : List Effect
  outcome : Outcome ρ

/-- The events of one attempt, up to the policy's decision. -/
def Attempt.events {τ ρ : Type} (a : Attempt τ ρ) : List Event :=
  .started a.consistency a.retryCount ::
    match a.outcome with
    | .answered _ => [.succeeded]
    | .failed e v => .failed e :: v.remarks.map .remarked ++ [.decided v.decision]
    | .pending => []

/-- Where a run stands between two attempts. -/
structure Cursor (σ : Type) where
  /-- The position in the plan. -/
  position : Nat
  /-- The level of the next attempt. -/
  consistency : Consistency
  retryCount : Nat
  /-- The error that each target before was left with. -/
  errors : List (Address × AttemptError)
  /-- The time since the request began. -/
  elapsed : Duration
  store : Store
  /-- What the cluster remembers. -/
  state : σ

/-- How a request is executed: its terms, and how long its caller waits for it altogether. -/
structure Context where
  terms : Terms
  patience : Option Duration

/-- One attempt: its record, and where the run stands after it. -/
structure Step (σ τ ρ : Type) where
  record : Attempt τ ρ
  cursor : Cursor σ

namespace Cursor

variable {σ τ ρ : Type}

/-- Whether the caller still waits after some more time. -/
def inPatience (ctx : Context) (cur : Cursor σ) (spent : Duration) : Bool :=
  ctx.patience.all fun limit => cur.elapsed + spent ≤ limit

/-- The outcome of an answer, if there is one before the caller stops waiting. -/
def await (ctx : Context) (cur : Cursor σ) (answer : Option (Duration × Except AttemptError ρ)) :
    Option (Duration × Except AttemptError ρ) :=
  (awaited ctx.terms.timeout answer).filter fun outcome => cur.inPatience ctx outcome.1

/-- What the policy says to an error, with the flags as they are. -/
def verdict (ctx : Context) (cur : Cursor σ) (error : AttemptError) : Verdict :=
  ctx.terms.policy.decide cur.store.flags ctx.terms.query cur.consistency error cur.retryCount

/-- The cursor after a call and the wait for its outcome. -/
def advance (cur : Cursor σ) (effects : List Effect) (spent : Option Duration) (state : σ) :
    Cursor σ :=
  { cur with
    elapsed := cur.elapsed + spent.getD ⟨0⟩
    store := cur.store.applyAll effects
    state }

/-- How an attempt ended, where the run stands by then. -/
def outcome (ctx : Context) (cur : Cursor σ) : Option (Except AttemptError ρ) → Outcome ρ
  | none => .pending
  | some (.ok response) => .answered response
  | some (.error e) => .failed e (cur.verdict ctx e)

/-- Make one attempt at a target: call it, wait for the outcome, and ask the policy about an
error. -/
def attempt (ctx : Context) (cluster : Cluster σ τ ρ) (cur : Cursor σ) (target : τ) :
    Step σ τ ρ :=
  let called := cluster.call cur.state target cur.consistency
  let waited := cur.await ctx called.1.answer
  let cur' := cur.advance called.1.effects (waited.map Prod.fst) called.2
  { record :=
      { position := cur.position
        target := target
        consistency := cur.consistency
        retryCount := cur.retryCount
        effects := called.1.effects
        outcome := cur'.outcome ctx (waited.map Prod.snd) }
    cursor := cur' }

/-- Go on to a retry, at the named level or at the same one. -/
def retry (cur : Cursor σ) (level : Option Consistency) : Cursor σ :=
  { cur with consistency := level.getD cur.consistency, retryCount := cur.retryCount + 1 }

/-- Leave a target for the next one, with the error it is left with. -/
def leave (cur : Cursor σ) (address : Address) (error : AttemptError) : Cursor σ :=
  { cur with position := cur.position + 1, errors := cur.errors ++ [(address, error)] }

section Attempt

variable (ctx : Context) (cluster : Cluster σ τ ρ) (cur : Cursor σ) (target : τ)

@[simp] theorem attempt_record_position :
    (cur.attempt ctx cluster target).record.position = cur.position := rfl

@[simp] theorem attempt_record_target :
    (cur.attempt ctx cluster target).record.target = target := rfl

@[simp] theorem attempt_record_consistency :
    (cur.attempt ctx cluster target).record.consistency = cur.consistency := rfl

@[simp] theorem attempt_record_retryCount :
    (cur.attempt ctx cluster target).record.retryCount = cur.retryCount := rfl

/-- An attempt does not move the cursor: only its time, the store and the cluster go on. -/
@[simp] theorem attempt_cursor_position :
    (cur.attempt ctx cluster target).cursor.position = cur.position := rfl

@[simp] theorem attempt_cursor_consistency :
    (cur.attempt ctx cluster target).cursor.consistency = cur.consistency := rfl

@[simp] theorem attempt_cursor_retryCount :
    (cur.attempt ctx cluster target).cursor.retryCount = cur.retryCount := rfl

@[simp] theorem attempt_cursor_errors :
    (cur.attempt ctx cluster target).cursor.errors = cur.errors := rfl

@[simp] theorem attempt_record_effects :
    (cur.attempt ctx cluster target).record.effects =
      (cluster.call cur.state target cur.consistency).1.effects := rfl

@[simp] theorem attempt_cursor_state :
    (cur.attempt ctx cluster target).cursor.state =
      (cluster.call cur.state target cur.consistency).2 := rfl

/-- The writes of a call are in the store when the policy is asked. -/
theorem attempt_cursor_store :
    (cur.attempt ctx cluster target).cursor.store =
      cur.store.applyAll (cur.attempt ctx cluster target).record.effects := rfl

end Attempt

section Move

variable (cur : Cursor σ) (level : Option Consistency) (address : Address) (error : AttemptError)

@[simp] theorem retry_position : (cur.retry level).position = cur.position := rfl

@[simp] theorem retry_consistency :
    (cur.retry level).consistency = level.getD cur.consistency := rfl

@[simp] theorem retry_retryCount : (cur.retry level).retryCount = cur.retryCount + 1 := rfl

@[simp] theorem retry_errors : (cur.retry level).errors = cur.errors := rfl

@[simp] theorem retry_store : (cur.retry level).store = cur.store := rfl

@[simp] theorem retry_state : (cur.retry level).state = cur.state := rfl

@[simp] theorem leave_position : (cur.leave address error).position = cur.position + 1 := rfl

@[simp] theorem leave_consistency : (cur.leave address error).consistency = cur.consistency := rfl

@[simp] theorem leave_retryCount : (cur.leave address error).retryCount = cur.retryCount := rfl

@[simp] theorem leave_errors :
    (cur.leave address error).errors = cur.errors ++ [(address, error)] := rfl

@[simp] theorem leave_store : (cur.leave address error).store = cur.store := rfl

@[simp] theorem leave_state : (cur.leave address error).state = cur.state := rfl

end Move

end Cursor

end Reattempt
