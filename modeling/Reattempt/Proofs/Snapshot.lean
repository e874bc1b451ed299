import Reattempt.Proofs.Writes

/-!
# The profile of a request, and its flags

A request reads its profile once, when it begins, and flags at every decision.
While its attempts write to shared places, the two go opposite ways: remaps of
handles are seen by later requests only, and a flag counts for each decision with
the value that was written last before it.

* `Effect.withoutRemaps`: writes to flags alone.
* `Store.flagsAt`: the flags at a decision, read off the writes before it.
* `Configured.scheduled`: a policy whose gates are given values, decision by decision.
* `Executor.stands`: what a run leaves in shared places and of its cluster.
* `execute_snapshot`: what counts for a run, and for requests after it.
-/

namespace Reattempt

variable {σ τ ρ : Type}

/-- Whether a write lets a handle point elsewhere. -/
def Effect.isRemap : Effect → Bool
  | setFlag _ _ => false
  | remap _ _ => true

/-- The writes to flags among some writes. -/
def Effect.withoutRemaps : List Effect → List Effect := List.filter fun e => !e.isRemap

theorem Effect.withoutRemaps_keeps (flag : Flag) (e : Effect) (h : (e.value? flag).isSome) :
    (!e.isRemap) = true := by
  cases e with
  | setFlag f value => rfl
  | remap k p => cases h

namespace Store

/-- The flags at the decision about an attempt with a number: each has the value written last by
the attempts up to this one, or else the one at the beginning. -/
def flagsAt (s : Store) (as : List (Attempt τ ρ)) (i : Nat) : Flags := fun flag =>
  (lastWrite (Effect.value? flag) ((as.take (i + 1)).flatMap Attempt.effects)).getD (s.flags flag)

end Store

/-- A policy without gates that decides as a policy does whose gates are given values, which may
be others for each retry. -/
def Policy.scheduled (values : Nat → Flags) (p : Policy) : Policy :=
  .ofLeaf (.custom "Scheduled" fun f =>
    ((p.given (values f.retryCount)).decide (fun _ => false) f).decision)

theorem Policy.decide_scheduled (values : Nat → Flags) (flags : Flags) (p : Policy) (f : Failure) :
    ((p.scheduled values).decide flags f).decision =
      (p.decide (values f.retryCount) f).decision := by
  rw [← decide_given (values f.retryCount) (fun _ => false) p]
  rfl

/-- A configured policy without gates, in place of one whose gates are given values. -/
def Configured.scheduled (values : Nat → Flags) : Configured → Configured
  | base p => base (p.scheduled values)
  | extended p => extended (p.scheduled values)

/-- Its decision after so many retries is the one at the values given for them. -/
theorem Configured.decide_scheduled (values : Nat → Flags) (flags : Flags) (c : Configured)
    (q : Query) (level : Consistency) (e : AttemptError) (n : Nat) :
    ((c.scheduled values).decide flags q level e n).decision =
      (c.decide (values n) q level e n).decision := by
  unfold decide
  cases hf : Failure.ofError? q level n e with
  | none => rfl
  | some f =>
    obtain rfl : f.retryCount = n := by
      obtain ⟨cause, -, rfl⟩ := Option.map_eq_some_iff.1 hf
      rfl
    cases c with
    | base p =>
      simp only [scheduled, ask]
      split
      · exact Policy.decide_scheduled values flags p f
      · rfl
    | extended p => exact Policy.decide_scheduled values flags p f

/-- Where an execution stands at its end, after its attempts. -/
theorem Executor.stands (x : Executor) (s : Statement) (plan : Plan τ) (cluster : Cluster σ τ ρ)
    (patience : Option Duration) (store : Store) (state : σ) :
    Stands (x.terms s store).maxRetries cluster
      (.start (x.terms s store).consistency store state)
      (x.execute s plan cluster patience store state).attempts
      (x.execute s plan cluster patience store state).last := by
  rcases x.execute_cases s plan cluster patience store state with
    ⟨-, hr⟩ | ⟨target, run, -, h, hr⟩
  · rw [hr]
    exact Stands.nil
  · rw [hr]
    exact h.stands

/-- What a run leaves in shared places is what its attempts wrote. -/
theorem Executor.last_store (x : Executor) (s : Statement) (plan : Plan τ)
    (cluster : Cluster σ τ ρ) (patience : Option Duration) (store : Store) (state : σ) :
    (x.execute s plan cluster patience store state).last.store =
      store.after (x.execute s plan cluster patience store state).attempts :=
  (x.stands s plan cluster patience store state).store

/-- What a run leaves of its cluster is what its attempts made of it. -/
theorem Executor.last_state (x : Executor) (s : Statement) (plan : Plan τ)
    (cluster : Cluster σ τ ρ) (patience : Option Duration) (store : Store) (state : σ) :
    (x.execute s plan cluster patience store state).last.state =
      cluster.after state (x.execute s plan cluster patience store state).attempts :=
  (x.stands s plan cluster patience store state).state

/-- **The profile is read once, flags are read at every decision.** Whatever the attempts of a
request write to shared places, remaps of its own handle among it: all of them obey the terms found
through the profile that the handle pointed to when the request began, and the request goes as if
nothing had been remapped. Each verdict is that of the policy whose gates are given the values
written last before it, and the whole request goes as one whose gates are given these values, while
nothing is written. A later request finds its profile as it was remapped last. -/
theorem execute_snapshot (x : Executor) (s : Statement) (plan : Plan τ) (cluster : Cluster σ τ ρ)
    (patience : Option Duration) (store : Store) (state : σ) :
    let terms := s.terms (store.profile (s.chosen x.handle))
    let r := x.execute s plan cluster patience store state
    Lawful terms patience plan cluster store state r.attempts ∧
    (let r' := x.execute s plan (cluster.rewriting Effect.withoutRemaps) patience store state
     r'.attempts = r.attempts.map (Attempt.rewriting Effect.withoutRemaps) ∧
       r'.events = r.events ∧ r'.result = r.result) ∧
    (∀ i a e v, r.attempts[i]? = some a → a.outcome = .failed e v → ∀ flags,
      v = (terms.policy.given (store.flagsAt r.attempts i)).decide flags s.query a.consistency e
        i) ∧
    r.Abreast .decision (fun _ => [])
      (x.execute { s with policy := some (terms.policy.scheduled (store.flagsAt r.attempts)) } plan
        (cluster.rewriting fun _ => []) patience store state) ∧
    ∀ (x' : Executor) (s' : Statement) (plan' : Plan τ) (cluster' : Cluster σ τ ρ)
      (patience' : Option Duration) (state' : σ),
      Lawful
        (s'.terms ((lastWrite (Effect.pointee? (s'.chosen x'.handle))
          (r.attempts.flatMap Attempt.effects)).getD (store.profile (s'.chosen x'.handle))))
        patience' plan' cluster' r.last.store state'
        (x'.execute s' plan' cluster' patience' r.last.store state').attempts := by
  intro terms r
  have hverdict : ∀ i a e v, r.attempts[i]? = some a → a.outcome = .failed e v →
      v = terms.policy.decide (store.flagsAt r.attempts i) s.query a.consistency e i := by
    intro i a e v ha ho
    have hflags : (store.after (r.attempts.take (i + 1))).flags = store.flagsAt r.attempts i :=
      funext (store.flags_after _)
    rw [← hflags]
    exact (x.attempts_lawful s plan cluster patience store state).decided i a e v ha ho
  refine ⟨x.attempts_lawful s plan cluster patience store state, ?_, ?_, ?_, ?_⟩
  · -- the policy is the same, and so are the flags it reads
    exact (Executor.execute_rewriting plan cluster patience state rfl fun g _ as =>
      Store.flags_after_filter (Effect.withoutRemaps_keeps g.flag) store as).eq_of_whole
  · intro i a e v ha ho flags
    rw [Configured.decide_given]
    exact hverdict i a e v ha ho
  · refine Executor.execute_abreast (c := terms.policy.scheduled (store.flagsAt r.attempts)) plan
      cluster patience state rfl ?_
    intro i a ha e v ho
    have hcount : a.retryCount = i :=
      ((x.attempts_lawful s plan cluster patience store state).placed i a ha).2
    rw [Verdict.seen_decision_eq_iff, Configured.decide_scheduled, hcount,
      hverdict i a e v ha ho]
  · intro x' s' plan' cluster' patience' state'
    have hlast : r.last.store = store.applyAll (r.attempts.flatMap Attempt.effects) :=
      x.last_store s plan cluster patience store state
    rw [← Store.profile_applyAll, ← hlast]
    exact x'.attempts_lawful s' plan' cluster' patience' r.last.store state'

end Reattempt
