import Reattempt.Policy.Chain

/-!
# Configured policies

A policy is configured either as extended, and then asked about every
category, or as base. A base policy is asked only about the categories of a
missed quorum; for the others a fixed rule stands in: one retry at the next
target, then giving up.

* `Configured.ask`: the answer about a failure.
* `Configured.decide`: the answer about an attempt's error.
* `Configured.fallbackDecision`: the fixed rule.
-/

namespace Reattempt

/-- A policy with the categories it is asked about. -/
inductive Configured where
  /-- Asked only about a missed quorum. -/
  | base (policy : Policy)
  /-- Asked about every category. -/
  | extended (policy : Policy)

namespace Configured

/-- The policy without how it is configured. -/
def policy : Configured → Policy
  | base p | extended p => p

/-- Whether the policy itself answers every category. -/
def supportsExtended : Configured → Bool
  | base _ => false
  | extended _ => true

/-- One retry at the next target, then giving up. -/
def fallbackDecision (retryCount : Nat) : Decision :=
  if retryCount = 0 then .retryNextTarget none else .rethrow

/-- The verdict of the fixed rule, which asks nobody. -/
def fallback (f : Failure) : Verdict :=
  let d := fallbackDecision f.retryCount
  ⟨d, [], [.fallback f.category f.retryCount d]⟩

/-- The answer about a failure. -/
def ask (flags : Flags) (c : Configured) (f : Failure) : Verdict :=
  match c with
  | base p => if f.category.isQuorum then p.decide flags f else fallback f
  | extended p => p.decide flags f

/-- The answer about an attempt's error; an error that no category covers is given back. -/
def decide (flags : Flags) (c : Configured) (query : Query) (consistency : Consistency)
    (error : AttemptError) (retryCount : Nat) : Verdict :=
  match Failure.ofError? query consistency retryCount error with
  | some f => c.ask flags f
  | none => Verdict.rethrown

/-- The failures that a policy of the user's own was asked about, with its label. -/
def calls (c : Configured) (v : Verdict) : List (String × Failure) :=
  match c.policy.leaf.label? with
  | some label => v.consulted.map fun f => (label, f)
  | none => []

/-- The written form of a configured policy at the flags' present values. -/
def text (flags : Flags) : Configured → String
  | base p => "Base(" ++ p.text flags ++ ")"
  | extended p => "Extended(" ++ p.text flags ++ ")"

end Configured

end Reattempt
