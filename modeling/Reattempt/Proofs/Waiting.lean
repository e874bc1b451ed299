import Reattempt.Proofs.History

/-!
# Waiting

An attempt ends with what its target answers by the limit in time, or else with a
client timeout at the limit. The caller's patience is for the request as a whole:
the attempts use it up one after the other, and the one that is under way when
nothing of it is left does not end.

* `Timed`: how an attempt ends, and when it does not.
* `Reply.duration?`, `Cluster.elapsed`: how long one attempt goes on, and some in a
  row.
* `Cursor.attempt_timed`, `Runs.timed`: one attempt, and every attempt of a run.
-/

namespace Reattempt

variable {σ τ ρ : Type}

/-- **How an attempt ends**, for a target that answers after some time or never, under a limit in
time. Some time has passed before, and the caller's patience counts from the beginning. -/
structure Timed (limit patience : Option Duration) (elapsed : Duration)
    (answer : Option (Duration × Except AttemptError ρ)) (outcome : Outcome ρ) : Prop where
  /-- What the target answers by the limit is what the attempt ends with. -/
  answered : ∀ d received, answer = some (d, received) → (∀ t, limit = some t → d ≤ t) →
    (∀ p, patience = some p → elapsed + d ≤ p) → outcome.received? = some received
  /-- Without an answer by the limit it ends at the limit, with a client timeout. -/
  timedOut : ∀ t, limit = some t → (∀ d received, answer = some (d, received) → ¬ d ≤ t) →
    (∀ p, patience = some p → elapsed + t ≤ p) →
      outcome.received? = some (.error (.clientTimeout t))
  /-- It does not end where there is neither a limit nor an answer, and where the caller's patience
  is over before the limit and before the answer; in no other case. -/
  pending : outcome = .pending ↔
    (limit = none ∧ answer = none) ∨
      ∃ p, patience = some p ∧ (∀ t, limit = some t → ¬ elapsed + t ≤ p) ∧
        ∀ d received, answer = some (d, received) → ¬ elapsed + d ≤ p

/-- How long an attempt goes on: until the target answers, and no longer than a limit in time. -/
def Reply.duration? (limit : Option Duration) (reply : Reply ρ) : Option Duration :=
  match limit, reply.answer with
  | none, none => none
  | none, some (d, _) => some d
  | some t, none => some t
  | some t, some (d, _) => some (if d ≤ t then d else t)

/-- The time that attempts in a row take. -/
def Cluster.elapsed (cluster : Cluster σ τ ρ) (limit : Option Duration) :
    σ → List (Attempt τ ρ) → Duration
  | _, [] => ⟨0⟩
  | state, a :: as =>
    let called := cluster.call state a.target a.consistency
    (called.1.duration? limit).getD ⟨0⟩ + cluster.elapsed limit called.2 as

theorem Outcome.received?_eq_none_iff {o : Outcome ρ} : o.received? = none ↔ o = .pending := by
  cases o <;> simp [received?]

/-! ### One answer -/

section Answer

variable {limit : Option Duration} {answer : Option (Duration × Except AttemptError ρ)}

/-- What ends an attempt: nothing, or the answer, which comes by the limit, or the limit. -/
theorem waiting_cases (limit : Option Duration)
    (answer : Option (Duration × Except AttemptError ρ)) :
    (limit = none ∧ answer = none) ∨
      (∃ d received, answer = some (d, received) ∧ ∀ t, limit = some t → d ≤ t) ∨
      ∃ t, limit = some t ∧ ∀ d received, answer = some (d, received) → ¬ d ≤ t := by
  cases limit with
  | none =>
    cases answer with
    | none => exact .inl ⟨rfl, rfl⟩
    | some a => exact .inr (.inl ⟨a.1, a.2, rfl, nofun⟩)
  | some t =>
    by_cases hin : ∃ d received, answer = some (d, received) ∧ d ≤ t
    · obtain ⟨d, received, ha, hle⟩ := hin
      refine .inr (.inl ⟨d, received, ha, fun t' ht => ?_⟩)
      cases ht
      exact hle
    · exact .inr (.inr ⟨t, rfl, fun d received ha hle => hin ⟨d, received, ha, hle⟩⟩)

theorem awaited_of_answered {d : Duration} {received : Except AttemptError ρ}
    (ha : answer = some (d, received)) (hle : ∀ t, limit = some t → d ≤ t) :
    awaited limit answer = some (d, received) := by
  subst ha
  cases limit with
  | none => rfl
  | some t => exact if_pos (hle t rfl)

theorem awaited_of_timedOut {t : Duration} (ht : limit = some t)
    (hlate : ∀ d received, answer = some (d, received) → ¬ d ≤ t) :
    awaited limit answer = some (t, .error (.clientTimeout t)) := by
  subst ht
  cases answer with
  | none => rfl
  | some a => exact if_neg (hlate a.1 a.2 rfl)

/-- An answer is awaited for as long as the attempt goes on. -/
theorem Reply.duration?_eq (limit : Option Duration) (reply : Reply ρ) :
    reply.duration? limit = (awaited limit reply.answer).map Prod.fst := by
  unfold duration? awaited
  cases limit with
  | none => cases reply.answer <;> rfl
  | some t =>
    cases reply.answer with
    | none => rfl
    | some a =>
      by_cases hle : a.1 ≤ t
      · simp only [if_pos hle, Option.map_some]
      · simp only [if_neg hle, Option.map_some]

/-- Patience is over before the limit and before the answer if it is over before the first of them:
here this is the answer. -/
theorem impatient_iff_of_answered {elapsed p d : Duration} {received : Except AttemptError ρ}
    (ha : answer = some (d, received)) (hle : ∀ t, limit = some t → d ≤ t) :
    ((∀ t, limit = some t → ¬ elapsed + t ≤ p) ∧
      ∀ d received, answer = some (d, received) → ¬ elapsed + d ≤ p) ↔ ¬ elapsed + d ≤ p := by
  constructor
  · rintro ⟨-, hanswer⟩
    exact hanswer d received ha
  · intro hlt
    refine ⟨fun t ht hin => hlt (Duration.add_le_of_le (hle t ht) hin), fun d' received' ha' => ?_⟩
    rw [ha] at ha'
    cases ha'
    exact hlt

/-- Here it is the limit. -/
theorem impatient_iff_of_timedOut {elapsed p t : Duration} (ht : limit = some t)
    (hlate : ∀ d received, answer = some (d, received) → ¬ d ≤ t) :
    ((∀ t, limit = some t → ¬ elapsed + t ≤ p) ∧
      ∀ d received, answer = some (d, received) → ¬ elapsed + d ≤ p) ↔ ¬ elapsed + t ≤ p := by
  constructor
  · rintro ⟨hlimit, -⟩
    exact hlimit t ht
  · intro hlt
    refine ⟨fun t' ht' => ?_, fun d received ha hin => hlt ?_⟩
    · rw [ht] at ht'
      cases ht'
      exact hlt
    · have hle : t ≤ d := Duration.le_of_not_le (hlate d received ha)
      exact Duration.add_le_of_le hle hin

end Answer

/-- **An attempt that has ended was answered or has timed out.** -/
theorem Timed.answered_or_timedOut {limit patience : Option Duration} {elapsed : Duration}
    {answer : Option (Duration × Except AttemptError ρ)} {outcome : Outcome ρ}
    (h : Timed limit patience elapsed answer outcome) {received : Except AttemptError ρ}
    (hr : outcome.received? = some received) :
    (∃ d, answer = some (d, received)) ∨
      ∃ t, limit = some t ∧ received = .error (.clientTimeout t) := by
  have hended : outcome ≠ .pending := by rintro rfl; cases hr
  rcases waiting_cases limit answer with hnever | ⟨d, r, ha, hle⟩ | ⟨t, ht, hlate⟩
  · exact absurd (h.pending.2 (.inl hnever)) hended
  -- it was over before the caller's patience was
  · have hpatience : ∀ p, patience = some p → elapsed + d ≤ p := fun p hp =>
      Decidable.byContradiction fun hlt =>
        hended (h.pending.2 (.inr ⟨p, hp, (impatient_iff_of_answered ha hle).2 hlt⟩))
    have heq := h.answered d r ha hle hpatience
    rw [hr] at heq
    cases heq
    exact .inl ⟨d, ha⟩
  · have hpatience : ∀ p, patience = some p → elapsed + t ≤ p := fun p hp =>
      Decidable.byContradiction fun hlt =>
        hended (h.pending.2 (.inr ⟨p, hp, (impatient_iff_of_timedOut ht hlate).2 hlt⟩))
    have heq := h.timedOut t ht hlate hpatience
    rw [hr] at heq
    cases heq
    exact .inr ⟨t, ht, rfl⟩

/-- Under a limit, an attempt for which the caller waits is answered by then or times out. -/
theorem Timed.received?_of_limit {t elapsed : Duration}
    {answer : Option (Duration × Except AttemptError ρ)} {outcome : Outcome ρ}
    (h : Timed (some t) none elapsed answer outcome) :
    (∀ d received, answer = some (d, received) → d ≤ t → outcome.received? = some received) ∧
      ((∀ d received, answer = some (d, received) → ¬ d ≤ t) →
        outcome.received? = some (.error (.clientTimeout t))) := by
  refine ⟨fun d received ha hle => h.answered d received ha (fun t' ht => ?_) nofun,
    fun hlate => h.timedOut t rfl hlate nofun⟩
  cases ht
  exact hle

/-- Without one, an attempt for which the caller waits ends with the answer, whenever it comes. -/
theorem Timed.received?_of_none {elapsed : Duration}
    {answer : Option (Duration × Except AttemptError ρ)} {outcome : Outcome ρ}
    (h : Timed none none elapsed answer outcome) :
    outcome.received? = answer.map Prod.snd := by
  cases answer with
  | none => rw [h.pending.2 (.inl ⟨rfl, rfl⟩)]; rfl
  | some a => exact h.answered a.1 a.2 rfl nofun nofun

/-! ### One attempt -/

namespace Cursor

variable {ctx : Context} {cluster : Cluster σ τ ρ} {cur : Cursor σ} {target : τ}

theorem inPatience_iff {d : Duration} :
    cur.inPatience ctx d = true ↔ ∀ p, ctx.patience = some p → cur.elapsed + d ≤ p := by
  unfold inPatience
  cases ctx.patience <;> simp

theorem inPatience_eq_false_iff {d : Duration} :
    cur.inPatience ctx d = false ↔ ∃ p, ctx.patience = some p ∧ ¬ cur.elapsed + d ≤ p := by
  unfold inPatience
  cases ctx.patience <;> simp

/-- An attempt ends with what is awaited. -/
theorem received?_attempt :
    (cur.attempt ctx cluster target).record.outcome.received? =
      (cur.await ctx (cluster.call cur.state target cur.consistency).1.answer).map Prod.snd := by
  simp only [attempt]
  cases cur.await ctx (cluster.call cur.state target cur.consistency).1.answer with
  | none => rfl
  | some waited => obtain ⟨d, e | response⟩ := waited <;> rfl

section Await

variable {answer : Option (Duration × Except AttemptError ρ)} {d : Duration}
  {received : Except AttemptError ρ}

theorem await_eq_some (h : awaited ctx.terms.timeout answer = some (d, received))
    (hp : ∀ p, ctx.patience = some p → cur.elapsed + d ≤ p) :
    cur.await ctx answer = some (d, received) := by
  rw [await, h, Option.filter_some, if_pos (inPatience_iff.2 hp)]

theorem await_eq_none_iff (h : awaited ctx.terms.timeout answer = some (d, received)) :
    cur.await ctx answer = none ↔ ∃ p, ctx.patience = some p ∧ ¬ cur.elapsed + d ≤ p := by
  rw [await, h, Option.filter_some, ← inPatience_eq_false_iff]
  cases cur.inPatience ctx d <;> simp

end Await

/-- **An attempt ends in time.** -/
theorem attempt_timed :
    Timed ctx.terms.timeout ctx.patience cur.elapsed
      (cluster.call cur.state target cur.consistency).1.answer
      (cur.attempt ctx cluster target).record.outcome where
  answered d received ha hle hp := by
    rw [received?_attempt, await_eq_some (awaited_of_answered ha hle) hp]
    rfl
  timedOut t ht hlate hp := by
    rw [received?_attempt, await_eq_some (awaited_of_timedOut ht hlate) hp]
    rfl
  pending := by
    rw [← Outcome.received?_eq_none_iff, received?_attempt, Option.map_eq_none_iff]
    generalize (cluster.call cur.state target cur.consistency).1.answer = answer
    rcases waiting_cases ctx.terms.timeout answer with ⟨ht, ha⟩ | ⟨d, r, ha, hle⟩ | ⟨t, ht, hlate⟩
    · rw [await, ht, ha]
      exact iff_of_true rfl (.inl ⟨rfl, rfl⟩)
    · have hnever : ¬ (ctx.terms.timeout = none ∧ answer = none) := by rw [ha]; nofun
      rw [await_eq_none_iff (awaited_of_answered ha hle), or_iff_right hnever]
      simp only [impatient_iff_of_answered ha hle]
    · have hnever : ¬ (ctx.terms.timeout = none ∧ answer = none) := by rw [ht]; nofun
      rw [await_eq_none_iff (awaited_of_timedOut ht hlate), or_iff_right hnever]
      simp only [impatient_iff_of_timedOut ht hlate]

/-- An attempt that ends uses up the time for which it goes on. -/
theorem elapsed_attempt (h : (cur.attempt ctx cluster target).record.outcome ≠ .pending) :
    (cur.attempt ctx cluster target).cursor.elapsed = cur.elapsed +
      ((cluster.call cur.state target cur.consistency).1.duration? ctx.terms.timeout).getD ⟨0⟩ := by
  rw [Ne, ← Outcome.received?_eq_none_iff, received?_attempt, Option.map_eq_none_iff] at h
  obtain ⟨waited, hw⟩ := Option.ne_none_iff_exists'.1 h
  have hawaited : awaited ctx.terms.timeout
      (cluster.call cur.state target cur.consistency).1.answer = some waited :=
    (Option.filter_eq_some_iff.1 hw).1
  rw [Reply.duration?_eq, hawaited]
  simp only [attempt, advance, hw]

end Cursor

/-! ### A run -/

section Runs

variable {ctx : Context} {plan : Plan τ} {cluster : Cluster σ τ ρ} {target next : τ}
  {cur cur' : Cursor σ} {more : List Event} {r : Run σ τ ρ}

/-- An attempt that leads to another one has ended. -/
theorem Leads.elapsed (h : Leads ctx plan cluster target cur more next cur') :
    cur'.elapsed = cur.elapsed +
      ((cluster.call cur.state target cur.consistency).1.duration? ctx.terms.timeout).getD ⟨0⟩ := by
  cases h with
  | again fails => exact Cursor.elapsed_attempt (by rw [fails]; nofun)
  | onward fails => exact Cursor.elapsed_attempt (by rw [fails]; nofun)

/-- **Every attempt of a run ends in time**, counted from the attempts before it. -/
theorem Runs.timed (h : Runs ctx plan cluster target cur r) {i : Nat} {a : Attempt τ ρ}
    (ha : r.attempts[i]? = some a) :
    Timed ctx.terms.timeout ctx.patience
      (cur.elapsed + cluster.elapsed ctx.terms.timeout cur.state (r.attempts.take i))
      (cluster.reply cur.state (r.attempts.take i) a).answer a.outcome := by
  induction h generalizing i with
  | @stop target cur r ends =>
    rw [ends.attempts] at ha ⊢
    cases i with
    | zero => cases ha; exact Cursor.attempt_timed
    | succ i => cases ha
  | @go target next cur cur' more r leads rest ih =>
    cases i with
    | zero => cases ha; exact Cursor.attempt_timed
    | succ i =>
      have hrest := ih ha
      rw [leads.elapsed, leads.stands.state, Duration.add_assoc] at hrest
      exact hrest

end Runs

end Reattempt
