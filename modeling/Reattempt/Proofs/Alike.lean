import Reattempt.Proofs.Logs

/-!
# Runs that go alike

What a run does from some point on depends on the level, the number of retries,
the time, the flags and the cluster there, but not on the errors listed so far,
nor on how far the plan has been read. So two runs that stand alike go on alike,
each adding to its own list and reading its own plan.

* `Context.Alike`: requests on the same terms, but for the limit on retries.
* `Cursor.Alike`: runs that stand alike, one of them further on in its plan.
* `Cursor.Alike.attempt`: they make the same attempt, and stand alike after it.
* `Leads.alike`, `Ends.alike`: they take the same step.
* `Runs.alike`, `runFrom_alike`: they go alike, when the rest of the plan is the
  same.
-/

namespace Reattempt

variable {σ τ ρ : Type}

/-- Requests on the same terms, but for the limit on retries. -/
structure Context.Alike (ctx ctx' : Context) : Prop where
  query : ctx'.terms.query = ctx.terms.query
  policy : ctx'.terms.policy = ctx.terms.policy
  timeout : ctx'.terms.timeout = ctx.terms.timeout
  patience : ctx'.patience = ctx.patience

theorem Context.Alike.refl (ctx : Context) : ctx.Alike ctx := ⟨rfl, rfl, rfl, rfl⟩

/-- **Runs that stand alike.** The second one has read its plan `k` targets further, and lists some
errors more. -/
structure Cursor.Alike (k : Nat) (listed : List (Address × AttemptError)) (cur cur' : Cursor σ) :
    Prop where
  position : cur'.position = cur.position + k
  consistency : cur'.consistency = cur.consistency
  retryCount : cur'.retryCount = cur.retryCount
  errors : cur'.errors = listed ++ cur.errors
  elapsed : cur'.elapsed = cur.elapsed
  flags : cur'.store.flags = cur.store.flags
  state : cur'.state = cur.state

/-- The record of an attempt made further on in a plan. -/
def Attempt.shift (k : Nat) (a : Attempt τ ρ) : Attempt τ ρ := { a with position := a.position + k }

namespace Result

/-- The errors that are listed when the plan has run out; there are none when it was empty. -/
def exhausted? : Result ρ → Option (List (Address × AttemptError))
  | failed .emptyPlan => some []
  | failed (.noHostAvailable errors) => some errors
  | _ => none

/-- The same result, when other errors are listed before its own. -/
def listing (listed : List (Address × AttemptError)) (result : Result ρ) : Result ρ :=
  match result.exhausted? with
  | some errors => .failed (.ofExhausted (listed ++ errors))
  | none => result

theorem exhausted?_ofExhausted (errors : List (Address × AttemptError)) :
    (failed (.ofExhausted errors) : Result ρ).exhausted? = some errors := by
  cases errors <;> rfl

theorem exhausted?_ofAttempt (e : AttemptError) :
    (failed (.ofAttempt e) : Result ρ).exhausted? = none := by
  cases e <;> rfl

theorem listing_ofExhausted (listed errors : List (Address × AttemptError)) :
    (failed (.ofExhausted errors) : Result ρ).listing listed =
      failed (.ofExhausted (listed ++ errors)) := by
  unfold listing
  rw [exhausted?_ofExhausted]

theorem listing_of_exhausted?_eq_none {result : Result ρ} (h : result.exhausted? = none)
    (listed : List (Address × AttemptError)) : result.listing listed = result := by
  unfold listing
  rw [h]

end Result

/-- The flags after some writes depend on the flags before them alone. -/
theorem Store.flags_applyAll_congr (effects : List Effect) {s s' : Store}
    (h : s'.flags = s.flags) : (s'.applyAll effects).flags = (s.applyAll effects).flags := by
  induction effects generalizing s s' with
  | nil => exact h
  | cons e effects ih =>
    refine ih ?_
    cases e with
    | setFlag flag value =>
      show (fun f => if f = flag then value else s'.flags f) =
        fun f => if f = flag then value else s.flags f
      rw [h]
    | remap handle profile => exact h

variable {ctx ctx' : Context} {plan plan' : Plan τ} {cluster : Cluster σ τ ρ} {target : τ}
  {cur cur' : Cursor σ} {k : Nat} {listed : List (Address × AttemptError)}

namespace Cursor.Alike

theorem await (hctx : ctx.Alike ctx') (h : Alike k listed cur cur')
    (answer : Option (Duration × Except AttemptError ρ)) :
    cur'.await ctx' answer = cur.await ctx answer := by
  unfold Cursor.await inPatience
  rw [hctx.timeout, hctx.patience, h.elapsed]

theorem outcome (hctx : ctx.Alike ctx') (h : Alike k listed cur cur')
    (received : Option (Except AttemptError ρ)) :
    cur'.outcome ctx' received = cur.outcome ctx received := by
  cases received with
  | none => rfl
  | some received =>
    cases received with
    | ok response => rfl
    | error e =>
      have hverdict : cur'.verdict ctx' e = cur.verdict ctx e := by
        unfold verdict
        rw [hctx.policy, hctx.query, h.flags, h.consistency, h.retryCount]
      show Outcome.failed e (cur'.verdict ctx' e) = .failed e (cur.verdict ctx e)
      rw [hverdict]

theorem advance (h : Alike k listed cur cur') (effects : List Effect) (spent : Option Duration)
    (state : σ) :
    Alike k listed (cur.advance effects spent state) (cur'.advance effects spent state) where
  position := h.position
  consistency := h.consistency
  retryCount := h.retryCount
  errors := h.errors
  elapsed := by simp only [Cursor.advance, h.elapsed]
  flags := Store.flags_applyAll_congr effects h.flags
  state := rfl

/-- **Runs that stand alike make the same attempt**, and stand alike after it. -/
theorem attempt (hctx : ctx.Alike ctx') (h : Alike k listed cur cur') (cluster : Cluster σ τ ρ)
    (target : τ) :
    (cur'.attempt ctx' cluster target).record = (cur.attempt ctx cluster target).record.shift k ∧
      Alike k listed (cur.attempt ctx cluster target).cursor
        (cur'.attempt ctx' cluster target).cursor := by
  simp only [Cursor.attempt, h.state, h.consistency, h.await hctx]
  have hcursor := h.advance (cluster.call cur.state target cur.consistency).1.effects
    ((cur.await ctx (cluster.call cur.state target cur.consistency).1.answer).map Prod.fst)
    (cluster.call cur.state target cur.consistency).2
  refine ⟨?_, hcursor⟩
  rw [hcursor.outcome hctx, h.position, h.retryCount]
  rfl

theorem retry (h : Alike k listed cur cur') (level : Option Consistency) :
    Alike k listed (cur.retry level) (cur'.retry level) where
  position := h.position
  consistency := by rw [retry_consistency, retry_consistency, h.consistency]
  retryCount := by rw [retry_retryCount, retry_retryCount, h.retryCount]
  errors := h.errors
  elapsed := h.elapsed
  flags := h.flags
  state := h.state

theorem leave (h : Alike k listed cur cur') (address : Address) (error : AttemptError) :
    Alike k listed (cur.leave address error) (cur'.leave address error) where
  position := by rw [leave_position, leave_position, h.position, Nat.add_right_comm]
  consistency := h.consistency
  retryCount := h.retryCount
  errors := by rw [leave_errors, leave_errors, h.errors, List.append_assoc]
  elapsed := h.elapsed
  flags := h.flags
  state := h.state

/-- The outcome of the attempt that runs make where they stand alike. -/
theorem outcome_attempt (hctx : ctx.Alike ctx') (h : Alike k listed cur cur')
    (cluster : Cluster σ τ ρ) (target : τ) :
    (cur'.attempt ctx' cluster target).record.outcome =
      (cur.attempt ctx cluster target).record.outcome := by
  rw [(h.attempt hctx cluster target).1]
  rfl

end Cursor.Alike

/-- **An attempt leads to alike ones**, where both limits allow a retry and both plans have the
same next target. -/
theorem Leads.alike {more : List Event} {next : τ} {cur₁ : Cursor σ}
    (h : Leads ctx plan cluster target cur more next cur₁) (hctx : ctx.Alike ctx')
    (hcur : Cursor.Alike k listed cur cur') (allowed : cur'.retryCount < ctx'.terms.maxRetries)
    (hplan : plan'.item (cur'.position + 1) = plan.item (cur.position + 1)) :
    ∃ cur₁', Leads ctx' plan' cluster target cur' more next cur₁' ∧
      Cursor.Alike k listed cur₁ cur₁' := by
  have hattempt := (hcur.attempt hctx cluster target).2
  cases h with
  | again fails asks _ =>
    rw [← hcur.outcome_attempt hctx cluster target] at fails
    exact ⟨_, .again fails asks allowed, hattempt.retry _⟩
  | onward fails asks _ item =>
    rw [← hcur.outcome_attempt hctx cluster target] at fails
    exact ⟨_, .onward fails asks allowed (hplan.trans item), (hattempt.retry _).leave _ _⟩

/-- What happened further on in a plan, with some errors listed before. -/
structure Run.Alike (k : Nat) (listed : List (Address × AttemptError)) (r r' : Run σ τ ρ) :
    Prop where
  attempts : r'.attempts = r.attempts.map (Attempt.shift k)
  events : r'.events = r.events
  result : r'.result = r.result.listing listed
  last : Cursor.Alike k listed r.last r'.last

theorem Attempt.events_shift (a : Attempt τ ρ) : (a.shift k).events = a.events := rfl

/-- One attempt put before runs that go alike. -/
theorem Run.Alike.after {r r' : Run σ τ ρ} (h : Run.Alike k listed r r') (a : Attempt τ ρ)
    (more : List Event) : Run.Alike k listed (r.after a more) (r'.after (a.shift k) more) where
  attempts := by rw [attempts_after, attempts_after, h.attempts, List.map_cons]
  events := by rw [events_after, events_after, h.events, Attempt.events_shift]
  result := h.result
  last := h.last

/-- A run that ends where it stands ends alike further on, unless errors are listed. -/
theorem Run.Alike.ended (hcur : Cursor.Alike k listed cur cur') {result : Result ρ}
    (hresult : result.exhausted? = none) :
    Run.Alike (τ := τ) k listed (Run.ended cur result) (Run.ended cur' result) where
  attempts := rfl
  events := by simp only [Run.ended, hcur.retryCount]
  result := (Result.listing_of_exhausted?_eq_none hresult listed).symm
  last := hcur

/-- When the plan has run out, the errors listed before come first. -/
theorem Run.Alike.exhausted (hcur : Cursor.Alike k listed cur cur') :
    Run.Alike (τ := τ) (ρ := ρ) k listed (Run.ended cur (.failed (.ofExhausted cur.errors)))
      (Run.ended cur' (.failed (.ofExhausted cur'.errors))) where
  attempts := rfl
  events := by simp only [Run.ended, hcur.retryCount]
  result := by rw [result_ended, result_ended, Result.listing_ofExhausted, hcur.errors]
  last := hcur

/-- An outcome that settles the request lists no errors. -/
theorem Outcome.exhausted?_of_course {o : Outcome ρ} {result : Result ρ}
    (h : o.course = .over result) : result.exhausted? = none := by
  obtain ⟨response, -, rfl⟩ | ⟨-, rfl⟩ | ⟨e, v, -, -, rfl⟩ | ⟨e, v, -, -, rfl⟩ :=
    course_eq_over_iff.1 h
  · rfl
  · rfl
  · rfl
  · exact Result.exhausted?_ofAttempt e

/-- **Runs that stand alike end alike**, under one limit and before the same next target. -/
theorem Ends.alike {r : Run σ τ ρ} (h : Ends ctx plan cluster target cur r)
    (hcur : Cursor.Alike k listed cur cur')
    (hplan : plan'.item (cur'.position + 1) = plan.item (cur.position + 1)) :
    ∃ r', Ends ctx plan' cluster target cur' r' ∧ Run.Alike k listed r r' := by
  obtain ⟨hrecord, hattempt⟩ := hcur.attempt (.refl ctx) cluster target
  have houtcome := hcur.outcome_attempt (.refl ctx) cluster target
  cases h with
  | settled settles =>
    refine ⟨_, .settled (houtcome ▸ settles), ?_⟩
    rw [hrecord]
    exact (Run.Alike.ended hattempt (Outcome.exhausted?_of_course settles)).after _ _
  | limited fails asks full =>
    refine ⟨_, .limited (houtcome.trans fails) asks (hcur.retryCount ▸ full), ?_⟩
    unfold Run.limited
    rw [hrecord, hattempt.retryCount]
    exact (Run.Alike.ended hattempt (Result.exhausted?_ofAttempt _)).after _ _
  | @exhausted e v level last fails asks allowed item stands =>
    subst stands
    have hlast := (hattempt.retry level).leave (cluster.address target) e
    refine ⟨_, .exhausted (houtcome.trans fails) asks (hcur.retryCount ▸ allowed)
      (hplan.trans item) rfl, ?_⟩
    rw [hrecord]
    exact (Run.Alike.exhausted hlast).after _ _

/-- **Runs that stand alike go alike**, when the rest of the plan is the same. -/
theorem Runs.alike {r : Run σ τ ρ} (h : Runs ctx plan cluster target cur r)
    (hcur : Cursor.Alike k listed cur cur') (hplan : ∀ i, plan'.item (i + k) = plan.item i) :
    ∃ r', Runs ctx plan' cluster target cur' r' ∧ Run.Alike k listed r r' := by
  induction h generalizing cur' with
  | @stop target cur r ends =>
    have hnext : plan'.item (cur'.position + 1) = plan.item (cur.position + 1) := by
      rw [hcur.position, Nat.add_right_comm, hplan]
    obtain ⟨r', hends, hr⟩ := ends.alike hcur hnext
    exact ⟨r', .stop hends, hr⟩
  | @go target next cur cur₁ more r leads rest ih =>
    have hnext : plan'.item (cur'.position + 1) = plan.item (cur.position + 1) := by
      rw [hcur.position, Nat.add_right_comm, hplan]
    have hallowed := hcur.retryCount ▸ leads.allowed
    obtain ⟨cur₁', hleads, hcur₁⟩ := leads.alike (.refl ctx) hcur hallowed hnext
    obtain ⟨r', hrest, hr⟩ := ih hcur₁
    refine ⟨_, .go hleads hrest, ?_⟩
    rw [(hcur.attempt (.refl ctx) cluster target).1]
    exact hr.after _ _

theorem runFrom_alike (hcur : Cursor.Alike k listed cur cur')
    (hplan : ∀ i, plan'.item (i + k) = plan.item i) :
    Run.Alike k listed (runFrom ctx plan cluster cur) (runFrom ctx plan' cluster cur') := by
  have hitem : plan'.item cur'.position = plan.item cur.position := by rw [hcur.position, hplan]
  cases item : plan.item cur.position with
  | none =>
    rw [runFrom_of_none item, runFrom_of_none (hitem.trans item)]
    exact .exhausted hcur
  | some target =>
    obtain ⟨r, h, hr⟩ := runFrom_of_item ctx cluster item
    obtain ⟨r₁, h₁, hr₁⟩ := runFrom_of_item ctx cluster (hitem.trans item)
    obtain ⟨r', h', halike⟩ := h.alike hcur hplan
    obtain rfl := h₁.unique h'
    rw [hr, hr₁]
    exact ⟨halike.attempts, congrArg (List.cons _) halike.events, halike.result, halike.last⟩

end Reattempt
