import Reattempt.Plan
import Reattempt.Run.Attempt

/-!
# Runs

A run makes attempts until one is answered, the policy ends it, the limit on
retries forbids another attempt or the plan has no more targets. The number of
retries that may still be made bounds it, whatever the plan and the policy.

* `Outcome.course`: what an outcome asks for: to stop, to stay or to move on.
* `Run`: the attempts of a run, its events and how it ended.
* `runAt`: the run from one target on; `length_attempts_runAt` bounds it.
* `runFrom`: the run from a position in the plan on.
-/

namespace Reattempt

/-- How a request ended. -/
inductive Result (ρ : Type) where
  | completed (response : ρ)
  /-- The failure of the last attempt counts as success without a response. -/
  | ignored
  | failed (error : RequestError)
  /-- The caller stopped waiting. -/
  | unfinished

/-- What a run did. -/
structure Run (σ τ ρ : Type) where
  attempts : List (Attempt τ ρ)
  events : List Event
  result : Result ρ
  /-- Where the run stood at its end. -/
  last : Cursor σ

/-- What the outcome of an attempt asks for, before the limit on retries is applied. -/
inductive Course (ρ : Type) where
  /-- The run is over. -/
  | over (result : Result ρ)
  /-- Another attempt at the same target. -/
  | again (error : AttemptError) (level : Option Consistency)
  /-- An attempt at the next target. -/
  | onward (error : AttemptError) (level : Option Consistency)

/-- What an outcome asks for. -/
def Outcome.course {ρ : Type} : Outcome ρ → Course ρ
  | answered response => .over (.completed response)
  | pending => .over .unfinished
  | failed e v =>
    match v.decision with
    | .ignore => .over .ignored
    | .rethrow => .over (.failed (.ofAttempt e))
    | .retrySameTarget level => .again e level
    | .retryNextTarget level => .onward e level

namespace Run

variable {σ τ ρ : Type}

/-- A run that ends where it stands. The number of retries is told, unless nobody waits. -/
def ended (cur : Cursor σ) (result : Result ρ) : Run σ τ ρ where
  attempts := []
  events :=
    match result with
    | .unfinished => []
    | _ => [.retried cur.retryCount]
  result := result
  last := cur

/-- A run with one more attempt at its beginning, and the events of it. -/
def after (a : Attempt τ ρ) (more : List Event) (r : Run σ τ ρ) : Run σ τ ρ :=
  { r with attempts := a :: r.attempts, events := a.events ++ more ++ r.events }

/-- The number of items taken from the plan: one more than the last position, where there is
a target at it. -/
def taken (plan : Plan τ) (r : Run σ τ ρ) : Nat :=
  r.last.position + (plan.item r.last.position).toList.length

@[simp] theorem attempts_ended (cur : Cursor σ) (result : Result ρ) :
    (ended cur result : Run σ τ ρ).attempts = [] := rfl

@[simp] theorem result_ended (cur : Cursor σ) (result : Result ρ) :
    (ended cur result : Run σ τ ρ).result = result := rfl

@[simp] theorem last_ended (cur : Cursor σ) (result : Result ρ) :
    (ended cur result : Run σ τ ρ).last = cur := rfl

@[simp] theorem attempts_after (a : Attempt τ ρ) (more : List Event) (r : Run σ τ ρ) :
    (r.after a more).attempts = a :: r.attempts := rfl

@[simp] theorem events_after (a : Attempt τ ρ) (more : List Event) (r : Run σ τ ρ) :
    (r.after a more).events = a.events ++ more ++ r.events := rfl

@[simp] theorem result_after (a : Attempt τ ρ) (more : List Event) (r : Run σ τ ρ) :
    (r.after a more).result = r.result := rfl

@[simp] theorem last_after (a : Attempt τ ρ) (more : List Event) (r : Run σ τ ρ) :
    (r.after a more).last = r.last := rfl

end Run

variable {σ τ ρ : Type}

/-- The end of a run whose last error asks for a retry that the limit forbids. -/
def Run.limited (ctx : Context) (step : Step σ τ ρ) (error : AttemptError) : Run σ τ ρ :=
  (Run.ended step.cursor (.failed (.ofAttempt error))).after step.record
    [.limited step.cursor.retryCount ctx.terms.maxRetries]

/-- **The run from a target on**, with so many retries left. -/
def runAt (ctx : Context) (plan : Plan τ) (cluster : Cluster σ τ ρ) :
    (left : Nat) → (target : τ) → Cursor σ → Run σ τ ρ
  | left, target, cur =>
    let step := cur.attempt ctx cluster target
    match left, step.record.outcome.course with
    | _, .over result => (Run.ended step.cursor result).after step.record []
    | 0, .again e _ => Run.limited ctx step e
    | 0, .onward e _ => Run.limited ctx step e
    | left + 1, .again _ level =>
      (runAt ctx plan cluster left target (step.cursor.retry level)).after step.record []
    | left + 1, .onward e level =>
      let next := (step.cursor.retry level).leave (cluster.address target) e
      match plan.item next.position with
      | some target =>
        (runAt ctx plan cluster left target next).after step.record
          [.taken (cluster.address target)]
      | none => (Run.ended next (.failed (.ofExhausted next.errors))).after step.record []

/-- **A run makes at most one attempt more than it has retries left.** -/
theorem length_attempts_runAt (ctx : Context) (plan : Plan τ) (cluster : Cluster σ τ ρ)
    (left : Nat) (target : τ) (cur : Cursor σ) :
    (runAt ctx plan cluster left target cur).attempts.length ≤ left + 1 := by
  fun_induction runAt <;> simp_all [Run.limited]

/-- **The run from a cursor on**: it takes the next target from the plan, if there is one. -/
def runFrom (ctx : Context) (plan : Plan τ) (cluster : Cluster σ τ ρ) (cur : Cursor σ) :
    Run σ τ ρ :=
  match plan.item cur.position with
  | some target =>
    let r := runAt ctx plan cluster (ctx.terms.maxRetries - cur.retryCount) target cur
    { r with events := .taken (cluster.address target) :: r.events }
  | none => Run.ended cur (.failed (.ofExhausted cur.errors))

end Reattempt
