import Mathlib.Data.List.Basic
import Reattempt.Proofs.Logs
import Reattempt.Proofs.Waiting

/-!
# How attempts follow each other

The attempts of an execution obey one law (`Lawful`), whatever the policy, the
plan and the cluster do: the first one goes to the first target at the level of
the terms, each one ends with what the cluster answers in time and each failed one
is put to the policy once, and the decision alone says where the next one goes. A
level that a decision names stays until another one is named, and targets are tried
in the order of the plan.

* `Cursor.attempt_verdict`: what the record of an attempt says of the policy.
* `Runs.decisions`: the log tells each decision once.
* `Executor.attempts_lawful`, `execute_lawful`: the law, for every execution.
-/

namespace Reattempt

variable {σ τ ρ : Type}

/-- **The law of attempts**, for a request with the given terms and a caller who waits for as long
as the patience allows. -/
structure Lawful (terms : Terms) (patience : Option Duration) (plan : Plan τ)
    (cluster : Cluster σ τ ρ) (store : Store) (state : σ) (as : List (Attempt τ ρ)) : Prop where
  /-- The first attempt goes to the first target, if there is one, at the level of the terms. -/
  first : as[0]?.map (fun a => (a.position, a.target, a.consistency)) =
    (plan.item 0).map fun target => (0, target, terms.consistency)
  /-- Each attempt is made at a target of the plan, and comes after as many retries as its number
  among the attempts says. -/
  placed : ∀ i (a : Attempt τ ρ), as[i]? = some a →
    plan.item a.position = some a.target ∧ a.retryCount = i
  /-- The cluster answers an attempt knowing those before it. The attempt ends with this answer, or
  with a client timeout if there is none by the limit in time, or not at all where the caller stops
  waiting first. -/
  answered : ∀ i a, as[i]? = some a →
    let reply := cluster.reply state (as.take i) a
    a.effects = reply.effects ∧
      Timed terms.timeout patience (cluster.elapsed terms.timeout state (as.take i)) reply.answer
        a.outcome
  /-- The policy is asked about a failed attempt with its own level and number, and reads the flags
  as the attempts so far have left them. -/
  decided : ∀ i a e v, as[i]? = some a → a.outcome = .failed e v →
    v = terms.policy.decide (store.after (as.take (i + 1))).flags terms.query a.consistency e i
  /-- An attempt comes after a failed one for which the policy asked for a retry and the limit
  allowed it. It is made at the same place in the plan or at the very next one, as the policy
  asked, at the level that was named with the retry or else at the one before. -/
  followed : ∀ i a b, as[i]? = some a → as[i + 1]? = some b →
    ∃ e v level, a.outcome = .failed e v ∧ i < terms.maxRetries ∧
      b.consistency = level.getD a.consistency ∧
      ((v.decision = .retrySameTarget level ∧ b.position = a.position) ∨
        (v.decision = .retryNextTarget level ∧ b.position = a.position + 1))
  /-- Such a retry is made whenever there is a target for it. -/
  goesOn : ∀ i a e v level, as[i]? = some a → a.outcome = .failed e v → i < terms.maxRetries →
    (v.decision = .retrySameTarget level ∨
      (v.decision = .retryNextTarget level ∧ (plan.item (a.position + 1)).isSome)) →
    i + 1 < as.length
  /-- A level that was named for one target stays for the targets after it. -/
  level : ∀ i a, as[i]? = some a →
    a.consistency =
      ((as.take i).filterMap (Attempt.named? terms.maxRetries)).getLast?.getD terms.consistency
  /-- No target is left out and none is returned to. -/
  position : ∀ i a, as[i]? = some a →
    a.position = (as.take i).countP (Attempt.leaves terms.maxRetries)

/-- The decision that an event tells. -/
def Event.decision? : Event → Option Decision
  | decided d => some d
  | _ => none

/-- The decision of the policy about a failed attempt. -/
def Attempt.decision? (a : Attempt τ ρ) : Option Decision := a.outcome.verdict?.map Verdict.decision

namespace Cursor

variable {ctx : Context} {cluster : Cluster σ τ ρ} {cur : Cursor σ} {target : τ}

/-- The verdict about a failed attempt is the policy's, after the writes of the attempt. -/
theorem attempt_verdict {e : AttemptError} {v : Verdict}
    (h : (cur.attempt ctx cluster target).record.outcome = .failed e v) :
    v = ctx.terms.policy.decide
      (cur.store.applyAll (cur.attempt ctx cluster target).record.effects).flags ctx.terms.query
      cur.consistency e cur.retryCount := by
  simp only [attempt] at h ⊢
  cases hw : cur.await ctx (cluster.call cur.state target cur.consistency).1.answer with
  | none => rw [hw] at h; cases h
  | some waited =>
    rw [hw] at h
    obtain ⟨d, e | response⟩ := waited
    · cases h; rfl
    · cases h

end Cursor

theorem Attempt.events_decisions (a : Attempt τ ρ) :
    a.events.filterMap Event.decision? = a.decision?.toList := by
  unfold events
  cases ho : a.outcome with
  | answered response =>
    simp [List.filterMap_cons, Event.decision?, decision?, Outcome.verdict?, ho]
  | pending =>
    simp [List.filterMap_cons, Event.decision?, decision?, Outcome.verdict?, ho]
  | failed e v =>
    have hr : (v.remarks.map Event.remarked).filterMap Event.decision? = [] := by
      rw [List.filterMap_map]
      exact List.filterMap_eq_nil_iff.2 fun _ _ => rfl
    simp [List.filterMap_cons, Event.decision?, decision?, Outcome.verdict?, ho, hr]

section Runs

variable {ctx : Context} {plan : Plan τ} {cluster : Cluster σ τ ρ} {target : τ} {cur : Cursor σ}
  {r : Run σ τ ρ}

/-- **The log tells the decision about each failed attempt once**, in order. -/
theorem Runs.decisions (h : Runs ctx plan cluster target cur r) :
    r.events.filterMap Event.decision? = r.attempts.filterMap Attempt.decision? := by
  rw [h.filterMap_events (fun _ => rfl) (fun _ _ => rfl) (fun _ => rfl),
    List.filterMap_eq_flatMap_toList]
  simp only [Attempt.events_decisions]

/-- A run from the beginning obeys the law. -/
theorem Runs.lawful {level : Consistency} {store : Store} {state : σ}
    (h : Runs ctx plan cluster target (.start level store state) r)
    (hlevel : level = ctx.terms.consistency) (item : plan.item 0 = some target) :
    Lawful ctx.terms ctx.patience plan cluster store state r.attempts := by
  subst hlevel
  constructor
  case first => rw [h.getElem?_zero, item]; rfl
  case placed =>
    intro i a ha
    obtain ⟨t, c, hc, hn, -, rfl, -⟩ := h.getElem?_attempts item ha
    exact ⟨hc, hn.trans (Nat.zero_add i)⟩
  case answered =>
    intro i a ha
    have htimed := h.timed ha
    rw [Cursor.start, Duration.zero_add] at htimed
    obtain ⟨t, c, -, -, hs, rfl, -⟩ := h.getElem?_attempts item ha
    have hstate : c.state = cluster.after state (r.attempts.take i) := hs.state
    refine ⟨?_, htimed⟩
    rw [Cluster.reply, ← hstate]
    rfl
  case decided =>
    intro i a e v ha ho
    obtain ⟨t, c, -, hn, hs, rfl, -⟩ := h.getElem?_attempts item ha
    have hstore : c.store = store.after (r.attempts.take i) := hs.store
    rw [Cursor.attempt_verdict ho, List.take_add_one, ha, Store.after_append, ← hstore, hn]
    simp [Store.after, Cursor.start]
  case followed =>
    intro i a b ha hb
    obtain ⟨t, c, -, hn, -, rfl, ⟨more, t', c', leads, hb'⟩ | ⟨r', -, hlen, -⟩⟩ :=
      h.getElem?_attempts item ha
    · have hi : c.retryCount = i := hn.trans (Nat.zero_add i)
      rw [hb] at hb'
      cases hb'
      cases leads with
      | @again e v level fails asks allowed =>
        exact ⟨e, v, level, fails, by omega, rfl, .inl ⟨asks, rfl⟩⟩
      | @onward e v level _ fails asks allowed =>
        exact ⟨e, v, level, fails, by omega, rfl, .inr ⟨asks, rfl⟩⟩
    -- the last attempt has none after it
    · have := (List.getElem?_eq_some_iff.1 hb).1
      omega
  case goesOn =>
    intro i a e v level ha ho hl hd
    obtain ⟨t, c, -, hn, -, rfl, ⟨more, t', c', -, hb⟩ | ⟨r', ends, -⟩⟩ :=
      h.getElem?_attempts item ha
    · exact (List.getElem?_eq_some_iff.1 hb).1
    -- an attempt that could lead on is not the last one
    · exfalso
      have hi : c.retryCount = i := hn.trans (Nat.zero_add i)
      rcases hd with hd | ⟨hd, hnext⟩
      · exact (Leads.again ho hd (by omega)).not_ends _ ends
      · obtain ⟨next, hnext⟩ := Option.isSome_iff_exists.1 hnext
        exact (Leads.onward ho hd (by omega) hnext).not_ends _ ends
  case level =>
    intro i a ha
    obtain ⟨t, c, -, -, hs, rfl, -⟩ := h.getElem?_attempts item ha
    exact hs.consistency
  case position =>
    intro i a ha
    obtain ⟨t, c, -, -, hs, rfl, -⟩ := h.getElem?_attempts item ha
    exact hs.position.trans (Nat.zero_add _)

end Runs

namespace Executor

/-- The attempts of an execution obey the law. -/
theorem attempts_lawful (x : Executor) (s : Statement) (plan : Plan τ) (cluster : Cluster σ τ ρ)
    (patience : Option Duration) (store : Store) (state : σ) :
    Lawful (x.terms s store) patience plan cluster store state
      (x.execute s plan cluster patience store state).attempts := by
  rcases x.execute_cases s plan cluster patience store state with
    ⟨item, hr⟩ | ⟨target, run, item, h, hr⟩
  · rw [hr]
    constructor <;> simp [Run.ended, item]
  · rw [hr]
    exact h.lawful rfl item

/-- The verdict on a failed attempt is that of the policy, with the flags as they are by then. -/
theorem verdict_eq (x : Executor) (s : Statement) (plan : Plan τ) (cluster : Cluster σ τ ρ)
    (patience : Option Duration) (store : Store) (state : σ) {i : Nat} {a : Attempt τ ρ}
    {e : AttemptError} {v : Verdict}
    (ha : (x.execute s plan cluster patience store state).attempts[i]? = some a)
    (ho : a.outcome = .failed e v) :
    v = (x.terms s store).policy.decide
      (store.after ((x.execute s plan cluster patience store state).attempts.take (i + 1))).flags
      s.query a.consistency e a.retryCount := by
  have hlaw := x.attempts_lawful s plan cluster patience store state
  rw [(hlaw.placed i a ha).2]
  exact hlaw.decided i a e v ha ho

end Executor

theorem Result.events_decisions (result : Result ρ) :
    result.events.filterMap Event.decision? = [] := by
  cases result <;> rfl

/-- **The law holds of every execution**, and its log tells the decision about each failed attempt
once, in order. -/
theorem execute_lawful (x : Executor) (s : Statement) (plan : Plan τ) (cluster : Cluster σ τ ρ)
    (patience : Option Duration) (store : Store) (state : σ) :
    Lawful (x.terms s store) patience plan cluster store state
        (x.execute s plan cluster patience store state).attempts ∧
      (x.execute s plan cluster patience store state).events.filterMap Event.decision? =
        (x.execute s plan cluster patience store state).attempts.filterMap Attempt.decision? := by
  rcases x.execute_cases s plan cluster patience store state with
    ⟨item, hr⟩ | ⟨target, run, item, h, hr⟩
  · rw [hr]
    refine ⟨?_, rfl⟩
    constructor <;> simp [Run.ended, item]
  · rw [hr]
    refine ⟨h.lawful rfl item, ?_⟩
    simp [List.filterMap_cons, Event.decision?, Result.events_decisions, h.decisions]

end Reattempt
