import Reattempt.Session.Basic

/-!
# Views

What a session shows of its objects, with shared places read at the moment of
the view.

* `Store.viewPolicy`, `Store.viewProfile`, `Store.viewHandle`,
  `Store.viewStatement`: the views of the objects.
* `Report`: what a session shows of a run.
-/

namespace Reattempt

/-- A policy as it is shown. -/
structure PolicyView where
  supportsExtended : Bool
  text : String
  deriving DecidableEq, Repr

/-- A profile as it is shown. -/
structure ProfileView where
  consistency : Consistency
  timeout : Option Duration
  /-- The flag's value now. -/
  isIdempotent : Bool
  maxRetries : UInt32
  policy : PolicyView
  deriving DecidableEq

/-- A handle as it is shown. -/
structure HandleView where
  label : Option String
  /-- The profile it points to now. -/
  profile : ProfileView
  deriving DecidableEq

/-- A statement as it is shown. -/
structure StatementView where
  query : Query
  policy : Option PolicyView
  handle : Option HandleView
  deriving DecidableEq

namespace Store

/-- A policy as it is shown now. -/
def viewPolicy (s : Store) (c : Configured) : PolicyView := ⟨c.supportsExtended, c.text s.flags⟩

/-- A profile as it is shown now. -/
def viewProfile (s : Store) (p : Profile) : ProfileView :=
  ⟨p.consistency, p.timeout, s.flags p.flag, p.maxRetries, s.viewPolicy p.policy⟩

/-- A handle as it is shown now. -/
def viewHandle (s : Store) (h : Handle) : HandleView := ⟨h.label, s.viewProfile (s.profile h)⟩

/-- A statement as it is shown now. -/
def viewStatement (s : Store) (st : Statement) : StatementView :=
  ⟨st.query, st.policy.map s.viewPolicy, st.handle.map s.viewHandle⟩

end Store

/-- A run as it is shown. -/
structure Report where
  result : Result Document
  /-- The name of the node and the level of each attempt. -/
  attempts : List (String × Consistency)
  /-- The number of items taken from the plan. -/
  taken : Nat
  /-- The time of the whole run, if it came to an end. -/
  elapsed : Option Duration
  /-- What a policy of the user's own was asked. -/
  calls : List (String × Failure)

namespace Report

/-- The time of a run that came to an end. -/
def elapsedOf {ρ : Type} (result : Result ρ) (elapsed : Duration) : Option Duration :=
  match result with
  | .unfinished => none
  | _ => some elapsed

/-- The report on a run under a policy. -/
def ofRun {σ : Type} (policy : Configured) (plan : Plan Target) (r : Run σ Target Document) :
    Report where
  result := r.result
  attempts := r.attempts.map fun a => (a.target.name, a.consistency)
  taken := r.taken plan
  elapsed := elapsedOf r.result r.last.elapsed
  calls := (r.attempts.filterMap (·.outcome.verdict?)).flatMap policy.calls

end Report

end Reattempt
