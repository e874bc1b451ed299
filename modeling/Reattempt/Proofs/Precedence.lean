import Reattempt.Proofs.Bound
import Reattempt.Proofs.Writes

/-!
# Which options count

A request finds its options on three levels: its statement, the profile that the
statement or else the executor points to, and the flags that gates read. Options
that do not count for it do not interfere: runs that differ in them alone are the
same.

* `Run.Same`: runs that differ at most in what is left in shared places.
* `Statement.terms_congr`: the options that are looked up in a profile.
* `Effect.elsewhere`: the writes that do not touch a flag.
* `Executor.execute_same`: terms and the flags of gates determine a run.
* `Executor.execute_of_handle`, `Executor.received?_of_waits`,
  `Executor.execute_setFlag`: the handle, the limit in time and the flag that count.
* `execute_precedence`: which options count for an execution.
-/

namespace Reattempt

variable {σ τ ρ : Type}

/-- **Runs that differ at most in what is left in shared places.** -/
structure Run.Same (r r' : Run σ τ ρ) : Prop where
  attempts : r'.attempts = r.attempts
  events : r'.events = r.events
  result : r'.result = r.result
  last : r.last.Abreast r'.last

/-- **Only the options that a statement leaves open are looked up**, and the limit on retries. -/
theorem Statement.terms_congr {s : Statement} {p p' : Profile}
    (hlimit : p'.maxRetries = p.maxRetries)
    (hlevel : s.query.consistency = none → p'.consistency = p.consistency)
    (htimeout : s.query.timeout = none → p'.timeout = p.timeout)
    (hpolicy : s.policy = none → p'.policy = p.policy) : s.terms p' = s.terms p := by
  have hp : s.policy.getD p'.policy = s.policy.getD p.policy := by
    cases hs : s.policy with
    | none => exact hpolicy hs
    | some c => rfl
  have hc : s.query.consistency.getD p'.consistency = s.query.consistency.getD p.consistency := by
    cases hs : s.query.consistency with
    | none => exact hlevel hs
    | some c => rfl
  have ht : s.query.timeout.or p'.timeout = s.query.timeout.or p.timeout := by
    cases hs : s.query.timeout with
    | none => exact htimeout hs
    | some t => rfl
  simp only [terms, hp, hc, ht, hlimit]

/-- The writes to other places than a flag among some writes. -/
def Effect.elsewhere (flag : Flag) : List Effect → List Effect :=
  List.filter fun e => (e.value? flag).isNone

theorem Effect.elsewhere_keeps {flag other : Flag} (hne : other ≠ flag) (e : Effect)
    (h : (e.value? other).isSome) : (e.value? flag).isNone = true := by
  cases e with
  | setFlag f value =>
    simp only [value?, Option.isSome_ite] at h
    subst h
    simp only [value?, if_neg hne.symm, Option.isNone_none]
  | remap k p => rfl

namespace Executor

variable {x x' : Executor} {s s' : Statement} {store store' : Store}

/-- **The terms of a request and the flags that its gates read determine its run**, over the same
plan and the same cluster. -/
theorem execute_same (plan : Plan τ) (cluster : Cluster σ τ ρ) (patience : Option Duration)
    (state : σ) (hterms : x'.terms s' store' = x.terms s store)
    (hflags : ∀ g ∈ (x.terms s store).policy.policy.gates,
      store'.flags g.flag = store.flags g.flag) :
    (x.execute s plan cluster patience store state).Same
      (x'.execute s' plan cluster patience store' state) := by
  have hrun : (x.execute s plan cluster patience store state).Abreast .whole id
      (x'.execute s' plan (cluster.rewriting id) patience store' state) := by
    refine execute_rewriting plan cluster patience state hterms fun g hg as => ?_
    rw [Attempt.map_rewriting_id]
    exact Store.flags_after_congr (hflags g hg) as
  obtain ⟨hattempts, hevents, hresult⟩ := hrun.eq_of_whole
  exact ⟨hattempts.trans (Attempt.map_rewriting_id _), hevents, hresult, hrun.last⟩

/-- **The executor does not matter** to a statement with its own handle. -/
theorem execute_of_handle (plan : Plan τ) (cluster : Cluster σ τ ρ) (patience : Option Duration)
    (state : σ) {h : Handle} (hh : s.handle = some h) :
    x'.execute s plan cluster patience store state =
      x.execute s plan cluster patience store state := by
  have hchosen : ∀ k, s.chosen k = h := fun k => by
    simp only [Statement.chosen, hh, Option.getD_some]
  have hterms : x'.terms s store = x.terms s store := by
    simp only [Executor.terms, hchosen]
  rw [execute_eq, execute_eq, hterms]

/-- **Which limit in time counts**: an attempt for which the caller waits is answered by the limit
of the terms or times out at it, and only without one its answer is awaited forever. -/
theorem received?_of_waits (plan : Plan τ) (cluster : Cluster σ τ ρ) (state : σ) {i : Nat}
    {a : Attempt τ ρ} (ha : (x.execute s plan cluster none store state).attempts[i]? = some a) :
    let answer :=
      (cluster.reply state ((x.execute s plan cluster none store state).attempts.take i) a).answer
    (∀ t, (x.terms s store).timeout = some t →
      (∀ d received, answer = some (d, received) → d ≤ t → a.outcome.received? = some received) ∧
      ((∀ d received, answer = some (d, received) → ¬ d ≤ t) →
        a.outcome.received? = some (.error (.clientTimeout t)))) ∧
    ((x.terms s store).timeout = none → a.outcome.received? = answer.map Prod.snd) := by
  intro answer
  have htimed := ((x.attempts_lawful s plan cluster none store state).answered i a ha).2
  refine ⟨fun t ht => ?_, fun ht => ?_⟩
  · rw [ht] at htimed
    exact htimed.received?_of_limit
  · rw [ht] at htimed
    exact htimed.received?_of_none

/-- **A flag that no gate of the policy holds does not matter**, whatever is written to it, before
the request or during it. -/
theorem execute_setFlag (plan : Plan τ) (cluster : Cluster σ τ ρ) (patience : Option Duration)
    (state : σ) {flag : Flag} (hg : ∀ g ∈ (x.terms s store).policy.policy.gates, g.flag ≠ flag)
    (value : Bool) :
    (x.execute s plan cluster patience store state).Abreast .whole (Effect.elsewhere flag)
      (x.execute s plan (cluster.rewriting (Effect.elsewhere flag)) patience
        (store.setFlag flag value) state) := by
  refine execute_rewriting plan cluster patience state rfl fun g hmem as => ?_
  calc ((store.setFlag flag value).after
          (as.map (Attempt.rewriting (Effect.elsewhere flag)))).flags g.flag
      = ((store.setFlag flag value).after as).flags g.flag :=
        Store.flags_after_filter (Effect.elsewhere_keeps (hg g hmem)) _ as
    _ = (store.after as).flags g.flag := Store.flags_after_congr (if_neg (hg g hmem)) as

end Executor

/-- **Which options count for an execution.** The profile is the one that the statement's own handle
points to, and then the executor's does not matter; else it is the executor's. Level, timeout and
policy are the statement's if it sets them, or else the profile's; the limit on retries is always
the profile's. If the caller waits, each attempt ends with the answer that comes by the limit in
time that counts, or else at this limit with a client timeout; only without any limit is an answer
awaited forever. So a statement can replace the profile's limit but not remove it: with it every
request comes to an end. Nothing else of a profile counts: not the options that the statement sets
itself, nor the flag, whatever is written to it, unless a gate of the policy that counts holds this
very flag. -/
theorem execute_precedence (x : Executor) (s : Statement) (plan : Plan τ) (cluster : Cluster σ τ ρ)
    (patience : Option Duration) (store : Store) (state : σ) :
    let p := store.profile (s.chosen x.handle)
    let policy := s.policy.getD p.policy
    let timeout := s.query.timeout.or p.timeout
    let r := x.execute s plan cluster patience store state
    (∀ h, s.handle = some h → p = store.profile h ∧
      ∀ x' : Executor, x'.execute s plan cluster patience store state = r) ∧
    (s.handle = none → p = store.profile x.handle) ∧
    (Lawful ⟨s.query, policy, s.query.consistency.getD p.consistency, timeout, p.maxRetries.toNat⟩
        patience plan cluster store state r.attempts ∧
      r.attempts.length ≤ p.maxRetries.toNat + 1) ∧
    (patience = none →
      (∀ i a, r.attempts[i]? = some a →
        let answer := (cluster.reply state (r.attempts.take i) a).answer
        (∀ t, timeout = some t →
          (∀ d received, answer = some (d, received) → d ≤ t →
            a.outcome.received? = some received) ∧
          ((∀ d received, answer = some (d, received) → ¬ d ≤ t) →
            a.outcome.received? = some (.error (.clientTimeout t)))) ∧
        (timeout = none → a.outcome.received? = answer.map Prod.snd)) ∧
      (p.timeout.isSome → r.result ≠ .unfinished)) ∧
    (∀ (x' : Executor) (store' : Store),
      let p' := store'.profile (s.chosen x'.handle)
      p'.maxRetries = p.maxRetries →
      (s.query.consistency = none → p'.consistency = p.consistency) →
      (s.query.timeout = none → p'.timeout = p.timeout) →
      (s.policy = none → p'.policy = p.policy) →
      (∀ g ∈ policy.policy.gates, store'.flags g.flag = store.flags g.flag) →
      r.Same (x'.execute s plan cluster patience store' state)) ∧
    (∀ flag, r.Same (x.execute s plan cluster patience
      (store.remap (s.chosen x.handle) { p with flag := flag }) state)) ∧
    ((∀ g ∈ policy.policy.gates, g.flag ≠ p.flag) → ∀ value,
      let r' := x.execute s plan (cluster.rewriting (Effect.elsewhere p.flag)) patience
        (store.setFlag p.flag value) state
      r'.attempts = r.attempts.map (Attempt.rewriting (Effect.elsewhere p.flag)) ∧
        r'.events = r.events ∧ r'.result = r.result) := by
  intro p policy timeout r
  have hlaw := x.attempts_lawful s plan cluster patience store state
  have hlength := x.length_attempts s plan cluster patience store state
  refine ⟨fun h hh => ?_, fun hh => ?_, ⟨hlaw, hlength⟩, fun hp => ⟨fun i a ha => ?_, fun ht => ?_⟩,
    ?_, fun flag => ?_, ?_⟩
  · refine ⟨?_, fun x' => Executor.execute_of_handle plan cluster patience state hh⟩
    show store.profile (s.handle.getD x.handle) = _
    rw [hh, Option.getD_some]
  · show store.profile (s.handle.getD x.handle) = _
    rw [hh, Option.getD_none]
  · subst hp
    exact Executor.received?_of_waits plan cluster state ha
  · have hlimit : (s.query.timeout.or p.timeout).isSome = true := by
      rw [Option.isSome_or, ht, Bool.or_true]
    exact x.execute_ne_unfinished s plan cluster patience store state hp fun _ _ _ => .inl hlimit
  · intro x' store' p' hlimit hlevel htimeout hpolicy hflags
    exact Executor.execute_same plan cluster patience state
      (Statement.terms_congr hlimit hlevel htimeout hpolicy) hflags
  · refine Executor.execute_same plan cluster patience state ?_ fun g _ => rfl
    show s.terms ((store.remap (s.chosen x.handle) { p with flag := flag }).profile
      (s.chosen x.handle)) = _
    rw [Store.profile_remap, if_pos rfl]
    rfl
  · intro hg value
    exact (Executor.execute_setFlag plan cluster patience state hg value).eq_of_whole

end Reattempt
