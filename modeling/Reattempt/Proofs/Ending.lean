import Reattempt.Proofs.History

/-!
# How runs end

The last attempt of a run settles the request: its outcome, the policy's
decision and the limit say with what result. The errors that are listed when the
plan has run out are those of the last attempt at each target, in the order of
the plan.

* `Settles`: the result that a last attempt stands for.
* `Runs.settles`: the last attempt of a run stands for its result.
* `Runs.of_rethrow`: an error that is given back ends the run.
* `Runs.lastAt`: each target that was left was left by the last attempt at it.
* `Executor.execute_ends`: how an execution ends.
* `execute_accounts`: the result of every execution, read off its attempts.
-/

namespace Reattempt

variable {σ τ ρ : Type}

/-- **The result that the last attempt of a run stands for**, given the errors of the targets that
were left. -/
inductive Settles (limit : Nat) (plan : Plan τ) (left : List (Address × AttemptError))
    (a : Attempt τ ρ) : Result ρ → Prop where
  | completed {response : ρ} (answered : a.outcome = .answered response) :
      Settles limit plan left a (.completed response)
  | ignored {e : AttemptError} {v : Verdict} (fails : a.outcome = .failed e v)
      (tells : v.decision = .ignore) : Settles limit plan left a .ignored
  /-- The error is given back, because the policy says so or the limit forbids the retry. -/
  | given {e : AttemptError} {v : Verdict} (fails : a.outcome = .failed e v)
      (tells : v.decision = .rethrow ∨ (v.decision.isRetry = true ∧ limit ≤ a.retryCount)) :
      Settles limit plan left a (.failed (.ofAttempt e))
  /-- The target is left, and there is no next one. -/
  | exhausted {e : AttemptError} {v : Verdict} {level : Option Consistency}
      (fails : a.outcome = .failed e v) (tells : v.decision = .retryNextTarget level)
      (allowed : a.retryCount < limit) (item : plan.item (a.position + 1) = none) :
      Settles limit plan left a (.failed (.noHostAvailable left))
  | unfinished (pending : a.outcome = .pending) : Settles limit plan left a .unfinished

theorem RequestError.ofAttempt_eq_requestTimeout_iff {e : AttemptError} {t : Duration} :
    ofAttempt e = .requestTimeout t ↔ e = .clientTimeout t := by
  cases e <;> simp [ofAttempt]

theorem RequestError.ofAttempt_eq_lastAttempt_iff {e e' : AttemptError} :
    ofAttempt e = .lastAttempt e' ↔ e = e' ∧ ∀ t, e ≠ .clientTimeout t := by
  cases e <;> simp [ofAttempt]

namespace Settles

variable {limit : Nat} {plan : Plan τ} {left : List (Address × AttemptError)} {a : Attempt τ ρ}
  {result result' : Result ρ}

/-- An attempt stands for one result at most. -/
theorem unique (h : Settles limit plan left a result) (h' : Settles limit plan left a result') :
    result = result' := by
  -- two different ends differ in the outcome, in the decision or by the limit
  cases h <;> cases h' <;> simp_all [Decision.isRetry] <;> omega

/-- An attempt that leaves its target is the last one only where the plan ends. -/
theorem of_leaves (h : Settles limit plan left a result) (hl : a.leaves limit = true) :
    plan.item (a.position + 1) = none ∧ result = .failed (.noHostAvailable left) := by
  obtain ⟨e, v, level, ho, hd, hlt⟩ := Attempt.leaves_iff.1 hl
  cases h with
  | completed answered => rw [ho] at answered; cases answered
  | ignored fails tells => rw [ho] at fails; cases fails; rw [hd] at tells; cases tells
  | given fails tells =>
    rw [ho] at fails; cases fails
    rw [hd] at tells
    rcases tells with tells | ⟨-, full⟩
    · cases tells
    · omega
  | exhausted fails tells allowed item => exact ⟨item, rfl⟩
  | unfinished pending => rw [ho] at pending; cases pending

theorem of_completed {response : ρ} (h : Settles limit plan left a result)
    (hr : result = .completed response) : a.outcome = .answered response := by
  cases h with
  | completed answered => cases hr; exact answered
  | _ => cases hr

theorem of_ignored (h : Settles limit plan left a result) (hr : result = .ignored) :
    ∃ e v, a.outcome = .failed e v ∧ v.decision = .ignore := by
  cases h with
  | ignored fails tells => exact ⟨_, _, fails, tells⟩
  | _ => cases hr

theorem of_requestTimeout {t : Duration} (h : Settles limit plan left a result)
    (hr : result = .failed (.requestTimeout t)) :
    ∃ v, a.outcome = .failed (.clientTimeout t) v ∧
      (v.decision = .rethrow ∨ (v.decision.isRetry = true ∧ limit ≤ a.retryCount)) := by
  cases h with
  | given fails tells =>
    obtain rfl := RequestError.ofAttempt_eq_requestTimeout_iff.1 (Result.failed.inj hr)
    exact ⟨_, fails, tells⟩
  | _ => cases hr

theorem of_lastAttempt {e : AttemptError} (h : Settles limit plan left a result)
    (hr : result = .failed (.lastAttempt e)) :
    ∃ v, a.outcome = .failed e v ∧
      (v.decision = .rethrow ∨ (v.decision.isRetry = true ∧ limit ≤ a.retryCount)) ∧
      ∀ t, e ≠ .clientTimeout t := by
  cases h with
  | given fails tells =>
    obtain ⟨rfl, hne⟩ := RequestError.ofAttempt_eq_lastAttempt_iff.1 (Result.failed.inj hr)
    exact ⟨_, fails, tells, hne⟩
  | _ => cases hr

/-- That no target is available is told only where the plan ends, with all that is listed. -/
theorem of_noHostAvailable {errors : List (Address × AttemptError)}
    (h : Settles limit plan left a result) (hr : result = .failed (.noHostAvailable errors)) :
    a.leaves limit = true ∧ plan.item (a.position + 1) = none ∧ left = errors := by
  cases h with
  | exhausted fails tells allowed item =>
    cases hr
    exact ⟨Attempt.leaves_iff.2 ⟨_, _, _, fails, tells, allowed⟩, item, rfl⟩
  | @given e v fails tells => cases e <;> cases hr
  | _ => cases hr

theorem of_unfinished (h : Settles limit plan left a result) (hr : result = .unfinished) :
    a.outcome = .pending := by
  cases h with
  | unfinished pending => exact pending
  | _ => cases hr

/-- After an attempt the plan is not empty. -/
theorem ne_emptyPlan (h : Settles limit plan left a result) : result ≠ .failed .emptyPlan := by
  intro hr
  cases h with
  | @given e v fails tells => cases e <;> cases hr
  | _ => cases hr

end Settles

/-- The last attempt at a position of the plan. -/
def lastAt (as : List (Attempt τ ρ)) (k : Nat) : Option (Attempt τ ρ) :=
  (as.filter fun a => a.position = k).getLast?

theorem lastAt_cons (a : Attempt τ ρ) (as : List (Attempt τ ρ)) (k : Nat) :
    lastAt (a :: as) k = (lastAt as k).or (if a.position = k then some a else none) := by
  unfold lastAt
  by_cases h : a.position = k
  · simp [h, List.getLast?_cons, Option.or_some]
  · simp [h]

theorem lastAt_eq_none {as : List (Attempt τ ρ)} {k : Nat} (h : ∀ a ∈ as, a.position ≠ k) :
    lastAt as k = none := by
  unfold lastAt
  rw [List.getLast?_eq_none_iff, List.filter_eq_nil_iff]
  simpa using h

/-- The last attempt of all is the last one at its own position. -/
theorem lastAt_of_getLast? {as : List (Attempt τ ρ)} {a : Attempt τ ρ} (h : as.getLast? = some a) :
    lastAt as a.position = some a := by
  obtain ⟨before, rfl⟩ := List.getLast?_eq_some_iff.1 h
  simp [lastAt]

/-- An attempt that leaves its target puts the target's error on the list. -/
theorem Attempt.left?_eq_some {limit : Nat} {a : Attempt τ ρ} {cluster : Cluster σ τ ρ}
    {e : AttemptError} {v : Verdict} (h : a.leaves limit = true) (ho : a.outcome = .failed e v) :
    a.left? limit cluster = some (cluster.address a.target, e) := by
  simp [left?, h, ho, Outcome.error?]

theorem Attempt.isSome_left? {limit : Nat} {a : Attempt τ ρ} {cluster : Cluster σ τ ρ} :
    (a.left? limit cluster).isSome = a.leaves limit := by
  cases h : a.leaves limit with
  | false => simp [left?, h]
  | true =>
    obtain ⟨e, v, level, ho, -⟩ := leaves_iff.1 h
    rw [left?_eq_some h ho]; rfl

/-- One error is listed for each target that was left. -/
theorem Stands.length_errors {limit : Nat} {cluster : Cluster σ τ ρ} {cur c : Cursor σ}
    {as : List (Attempt τ ρ)} (h : Stands limit cluster cur as c)
    (hcur : cur.errors.length = cur.position) : c.errors.length = c.position := by
  rw [h.errors, h.position, List.length_append, hcur, List.length_filterMap_eq_countP]
  simp only [Attempt.isSome_left?]

/-- The first attempt of a stretch, if it leaves its target, puts the next error on the list. -/
theorem Stands.getElem?_errors {limit : Nat} {cluster : Cluster σ τ ρ} {cur c : Cursor σ}
    {a : Attempt τ ρ} {as : List (Attempt τ ρ)} (h : Stands limit cluster cur (a :: as) c)
    (hcur : cur.errors.length = cur.position) (hl : a.leaves limit = true) :
    c.errors[cur.position]? = a.left? limit cluster := by
  obtain ⟨e, v, level, ho, -⟩ := Attempt.leaves_iff.1 hl
  rw [h.errors, ← hcur, List.getElem?_append_right (Nat.le_refl _), Nat.sub_self,
    List.filterMap_cons, Attempt.left?_eq_some hl ho]
  rfl

variable {ctx : Context} {plan : Plan τ} {cluster : Cluster σ τ ρ} {target : τ} {cur : Cursor σ}
  {r : Run σ τ ρ}

theorem Ends.settles (h : Ends ctx plan cluster target cur r) :
    Settles ctx.terms.maxRetries plan r.last.errors (cur.attempt ctx cluster target).record
      r.result := by
  cases h with
  | settled settles =>
    obtain ⟨response, ho, rfl⟩ | ⟨ho, rfl⟩ | ⟨e, v, ho, hd, rfl⟩ | ⟨e, v, ho, hd, rfl⟩ :=
      Outcome.course_eq_over_iff.1 settles
    · exact .completed ho
    · exact .unfinished ho
    · exact .ignored ho hd
    · exact .given ho (.inl hd)
  | limited fails asks full => exact .given fails (.inr ⟨asks, full⟩)
  | @exhausted e v level last fails asks allowed item stands =>
    -- the list has at least the error of this target
    have hne : RequestError.ofExhausted last.errors = .noHostAvailable last.errors := by
      subst stands
      simp only [Cursor.leave_errors, Cursor.retry_errors]
      cases (cur.attempt ctx cluster target).cursor.errors <;> rfl
    show Settles _ _ last.errors _ (.failed (.ofExhausted last.errors))
    rw [hne]
    exact .exhausted fails asks allowed item

/-- **The last attempt of a run stands for its result.** It is made at a target of the plan. -/
theorem Runs.settles (h : Runs ctx plan cluster target cur r)
    (item : plan.item cur.position = some target) :
    ∃ a, r.attempts.getLast? = some a ∧ plan.item a.position = some a.target ∧
      r.last.position = a.position + (if a.leaves ctx.terms.maxRetries then 1 else 0) ∧
      Settles ctx.terms.maxRetries plan r.last.errors a r.result := by
  induction h with
  | @stop target cur r ends =>
    have hpos : r.last.position = cur.position +
        [(cur.attempt ctx cluster target).record].countP (Attempt.leaves ctx.terms.maxRetries) :=
      ends.stands.position
    rw [List.countP_singleton] at hpos
    exact ⟨_, by rw [ends.attempts]; rfl, item, hpos, ends.settles⟩
  | go leads rest ih =>
    obtain ⟨a, ha, hitem, hpos, hs⟩ := ih (leads.item item)
    refine ⟨a, ?_, hitem, hpos, hs⟩
    rw [Run.attempts_after, List.getLast?_cons, ha]; rfl

/-- **An error that is given back ends the run**, and is the error of the request. -/
theorem Runs.of_rethrow (h : Runs ctx plan cluster target cur r)
    (item : plan.item cur.position = some target) {i : Nat} {a : Attempt τ ρ} {e : AttemptError}
    {v : Verdict} (ha : r.attempts[i]? = some a) (ho : a.outcome = .failed e v)
    (hd : v.decision = .rethrow) :
    i + 1 = r.attempts.length ∧ r.result = .failed (.ofAttempt e) := by
  obtain ⟨t, c, -, -, -, rfl, ⟨more, t', c', leads, -⟩ | ⟨r', ends, hlen, hresult, -⟩⟩ :=
    h.getElem?_attempts item ha
  · have hr := leads.retry?_isSome
    obtain ⟨d, hr⟩ := Option.isSome_iff_exists.1 hr
    obtain ⟨e', v', ho', rfl, hretry, -⟩ := Attempt.retry?_eq_some_iff.1 hr
    rw [ho] at ho'
    cases ho'
    rw [hd] at hretry
    cases hretry
  · refine ⟨hlen, hresult.trans ?_⟩
    have hc : (c.attempt ctx cluster t).record.outcome.course = .over (.failed (.ofAttempt e)) :=
      Outcome.course_eq_over_iff.2 (.inr (.inr (.inr ⟨e, v, ho, hd, rfl⟩)))
    cases ends with
    | settled settles => rw [hc] at settles; cases settles; rfl
    | limited fails => rw [ho] at fails; cases fails; rfl
    | exhausted fails asks =>
      rw [ho] at fails; cases fails
      rw [hd] at asks; cases asks

/-- A run does not go back in the plan. -/
theorem Runs.position_le (h : Runs ctx plan cluster target cur r)
    (item : plan.item cur.position = some target) {a : Attempt τ ρ} (ha : a ∈ r.attempts) :
    cur.position ≤ a.position := by
  obtain ⟨i, hi⟩ := List.mem_iff_getElem?.1 ha
  obtain ⟨t, c, -, -, hs, rfl, -⟩ := h.getElem?_attempts item hi
  show cur.position ≤ c.position
  rw [hs.position]
  omega

/-- **Each target that was left was left by the last attempt at it**, and its place on the list of
errors is its place in the plan. -/
theorem Runs.lastAt (h : Runs ctx plan cluster target cur r)
    (item : plan.item cur.position = some target) (hcur : cur.errors.length = cur.position)
    {k : Nat} (hk : cur.position ≤ k) (hk' : k < r.last.position) :
    ∃ a, Reattempt.lastAt r.attempts k = some a ∧ plan.item k = some a.target ∧
      a.leaves ctx.terms.maxRetries = true ∧
      r.last.errors[k]? = a.left? ctx.terms.maxRetries cluster := by
  induction h with
  | @stop target cur r ends =>
    have hpos := ends.stands.position
    rw [List.countP_singleton] at hpos
    split at hpos
    -- the only target that this attempt can leave is its own
    · rename_i hleaves
      obtain rfl : cur.position = k := by omega
      refine ⟨_, ?_, item, hleaves, ends.stands.getElem?_errors hcur hleaves⟩
      rw [ends.attempts, lastAt_cons]
      simp [Reattempt.lastAt]
    · omega
  | @go target next cur cur' more r leads rest ih =>
    have hpos := leads.stands.position
    rw [List.countP_singleton] at hpos
    rw [Run.attempts_after, lastAt_cons]
    by_cases hk0 : cur'.position ≤ k
    · obtain ⟨a, ha, hitem, hleaves, he⟩ :=
        ih (leads.item item) (leads.stands.length_errors hcur) hk0 hk'
      exact ⟨a, by rw [ha]; rfl, hitem, hleaves, he⟩
    -- the first attempt leaves its target, and the others are at later ones
    · split at hpos
      · rename_i hleaves
        obtain rfl : cur.position = k := by omega
        refine ⟨(cur.attempt ctx cluster target).record, ?_, item, hleaves,
          (leads.stands.append rest.stands).getElem?_errors hcur hleaves⟩
        have hlater : Reattempt.lastAt r.attempts cur.position = none := by
          refine lastAt_eq_none fun a ha => ?_
          have hle := rest.position_le (leads.item item) ha
          omega
        rw [hlater]
        simp
      · omega

/-- When no target is available, the run has gone through the whole plan. -/
theorem Runs.position_of_noHostAvailable {targets : List τ}
    (h : Runs ctx (.ofList targets) cluster target cur r)
    (item : targets[cur.position]? = some target) {errors : List (Address × AttemptError)}
    (hr : r.result = .failed (.noHostAvailable errors)) : r.last.position = targets.length := by
  obtain ⟨a, -, hitem, hpos, hs⟩ := h.settles item
  obtain ⟨hleaves, hend, -⟩ := hs.of_noHostAvailable hr
  rw [if_pos hleaves] at hpos
  have hlt : a.position < targets.length := (List.getElem?_eq_some_iff.1 hitem).1
  have hle : targets.length ≤ a.position + 1 := List.getElem?_eq_none_iff.1 hend
  omega

/-- **What the result of a run over the given targets tells of its attempts**, and the other way
round. -/
structure Accounts (limit : Nat) (targets : List τ) (cluster : Cluster σ τ ρ) (r : Run σ τ ρ) :
    Prop where
  completed : ∀ response, r.result = .completed response ↔
    ∃ a, r.attempts.getLast? = some a ∧ a.outcome = .answered response
  ignored : r.result = .ignored ↔
    ∃ a e v, r.attempts.getLast? = some a ∧ a.outcome = .failed e v ∧ v.decision = .ignore
  requestTimeout : ∀ t, r.result = .failed (.requestTimeout t) ↔
    ∃ a v, r.attempts.getLast? = some a ∧ a.outcome = .failed (.clientTimeout t) v ∧
      (v.decision = .rethrow ∨ (v.decision.isRetry = true ∧ limit ≤ a.retryCount))
  lastAttempt : ∀ e, r.result = .failed (.lastAttempt e) ↔
    ∃ a v, r.attempts.getLast? = some a ∧ a.outcome = .failed e v ∧
      (v.decision = .rethrow ∨ (v.decision.isRetry = true ∧ limit ≤ a.retryCount)) ∧
      ∀ t, e ≠ .clientTimeout t
  /-- Without targets there is no attempt, and the policy decides nothing. -/
  emptyPlan : (r.result = .failed .emptyPlan ↔ targets = []) ∧
    (targets = [] → r.attempts = [] ∧ ∀ d, Event.decided d ∉ r.events)
  /-- No target is available when each one was left after the last attempt at it. -/
  noHostAvailable : (∃ errors, r.result = .failed (.noHostAvailable errors)) ↔
    targets ≠ [] ∧ ∀ k < targets.length, ∃ a e v level, lastAt r.attempts k = some a ∧
      a.outcome = .failed e v ∧ v.decision = .retryNextTarget level ∧ a.retryCount < limit
  /-- Then the list has one entry for each target, in the order of the plan, with the error of the
  last attempt at it. -/
  listed : ∀ errors, r.result = .failed (.noHostAvailable errors) →
    errors.length = targets.length ∧ ∀ k target, targets[k]? = some target →
      ∃ a e v, lastAt r.attempts k = some a ∧ a.target = target ∧ a.outcome = .failed e v ∧
        errors[k]? = some (cluster.address target, e)
  /-- The caller stopped waiting, or would wait forever. -/
  unfinished : r.result = .unfinished ↔
    ∃ a, r.attempts.getLast? = some a ∧ a.outcome = .pending

/-- A run from the beginning over the given targets. -/
theorem Runs.accounts {targets : List τ} {level : Consistency} {store : Store} {state : σ}
    (h : Runs ctx (.ofList targets) cluster target (.start level store state) r)
    (item : targets[0]? = some target) : Accounts ctx.terms.maxRetries targets cluster r := by
  obtain ⟨a, ha, hitem, hpos, hs⟩ := h.settles item
  have hne : targets ≠ [] := by rintro rfl; cases item
  constructor
  case completed =>
    intro response
    constructor
    · exact fun hr => ⟨a, ha, hs.of_completed hr⟩
    · rintro ⟨b, hb, ho⟩
      rw [ha] at hb; cases hb
      exact hs.unique (.completed ho)
  case ignored =>
    constructor
    · intro hr
      obtain ⟨e, v, ho, hd⟩ := hs.of_ignored hr
      exact ⟨a, e, v, ha, ho, hd⟩
    · rintro ⟨b, e, v, hb, ho, hd⟩
      rw [ha] at hb; cases hb
      exact hs.unique (.ignored ho hd)
  case requestTimeout =>
    intro t
    constructor
    · intro hr
      obtain ⟨v, ho, hd⟩ := hs.of_requestTimeout hr
      exact ⟨a, v, ha, ho, hd⟩
    · rintro ⟨b, v, hb, ho, hd⟩
      rw [ha] at hb; cases hb
      exact hs.unique (.given ho hd)
  case lastAttempt =>
    intro e
    constructor
    · intro hr
      obtain ⟨v, ho, hd, hne⟩ := hs.of_lastAttempt hr
      exact ⟨a, v, ha, ho, hd, hne⟩
    · rintro ⟨b, v, hb, ho, hd, hne⟩
      rw [ha] at hb; cases hb
      rw [hs.unique (.given ho hd), RequestError.ofAttempt_eq_lastAttempt_iff.2 ⟨rfl, hne⟩]
  case emptyPlan =>
    exact ⟨⟨fun hr => absurd hr hs.ne_emptyPlan, fun h0 => absurd h0 hne⟩, fun h0 => absurd h0 hne⟩
  case noHostAvailable =>
    constructor
    · rintro ⟨errors, hr⟩
      refine ⟨hne, fun k hk => ?_⟩
      obtain ⟨b, hb, -, hleaves, -⟩ := h.lastAt item rfl (Nat.zero_le k)
        (h.position_of_noHostAvailable item hr ▸ hk)
      obtain ⟨e, v, level, ho, hd, hl⟩ := Attempt.leaves_iff.1 hleaves
      exact ⟨b, e, v, level, hb, ho, hd, hl⟩
    -- the last attempt of all is the last one at its target, so it leaves that too
    · rintro ⟨-, hall⟩
      obtain ⟨hlt, -⟩ := List.getElem?_eq_some_iff.1 hitem
      obtain ⟨b, e, v, level, hb, ho, hd, hl⟩ := hall a.position hlt
      rw [lastAt_of_getLast? ha] at hb; cases hb
      exact ⟨_, (hs.of_leaves (Attempt.leaves_iff.2 ⟨e, v, level, ho, hd, hl⟩)).2⟩
  case listed =>
    intro errors hr
    have hlast := h.position_of_noHostAvailable item hr
    obtain ⟨-, -, herr⟩ := hs.of_noHostAvailable hr
    refine ⟨by rw [← herr, h.stands.length_errors rfl, hlast], fun k t hk => ?_⟩
    obtain ⟨b, hb, hbt, hleaves, he⟩ := h.lastAt item rfl (Nat.zero_le k)
      (hlast ▸ (List.getElem?_eq_some_iff.1 hk).1)
    obtain ⟨e, v, level, ho, -⟩ := Attempt.leaves_iff.1 hleaves
    have ht : b.target = t := Option.some.inj (hbt.symm.trans hk)
    rw [herr, Attempt.left?_eq_some hleaves ho, ht] at he
    exact ⟨b, e, v, hb, ht, ho, he⟩
  case unfinished =>
    constructor
    · exact fun hr => ⟨a, ha, hs.of_unfinished hr⟩
    · rintro ⟨b, hb, ho⟩
      rw [ha] at hb; cases hb
      exact hs.unique (.unfinished ho)

namespace Executor

variable (x : Executor) (s : Statement) (plan : Plan τ) (cluster : Cluster σ τ ρ)
  (patience : Option Duration) (store : Store) (state : σ)

/-- **How an execution ends**: without an attempt, or with one that stands for its result. -/
theorem execute_ends :
    let r := x.execute s plan cluster patience store state
    let limit := (x.terms s store).maxRetries
    (r.attempts = [] ∧ r.result = .failed .emptyPlan) ∨
      ∃ a, r.attempts.getLast? = some a ∧
        Settles limit plan (r.attempts.filterMap fun a => a.left? limit cluster) a r.result := by
  intro r limit
  rcases x.execute_cases s plan cluster patience store state with
    ⟨-, hr⟩ | ⟨target, run, item, h, hr⟩
  · exact .inl ⟨by rw [show r = _ from hr]; rfl, by rw [show r = _ from hr]; rfl⟩
  · obtain ⟨a, ha, -, -, hs⟩ := h.settles item
    have herrors : run.last.errors = run.attempts.filterMap fun a => a.left? limit cluster :=
      h.stands.errors
    rw [herrors] at hs
    rw [show r = _ from hr]
    exact .inr ⟨a, ha, hs⟩

/-- The attempt after which there is no other one stands for the result. -/
theorem execute_settles {i : Nat} {a : Attempt τ ρ}
    (ha : (x.execute s plan cluster patience store state).attempts[i]? = some a)
    (hlast : i + 1 = (x.execute s plan cluster patience store state).attempts.length) :
    Settles (x.terms s store).maxRetries plan
      ((x.execute s plan cluster patience store state).attempts.filterMap fun a =>
        a.left? (x.terms s store).maxRetries cluster)
      a (x.execute s plan cluster patience store state).result := by
  rcases x.execute_ends s plan cluster patience store state with ⟨hnil, -⟩ | ⟨b, hb, hs⟩
  · rw [hnil] at ha
    cases ha
  · rw [List.getLast?_eq_getElem?, ← hlast, Nat.add_sub_cancel, ha] at hb
    cases hb
    exact hs

/-- An error that is given back ends the execution. -/
theorem of_rethrow {i : Nat} {a : Attempt τ ρ} {e : AttemptError} {v : Verdict}
    (ha : (x.execute s plan cluster patience store state).attempts[i]? = some a)
    (ho : a.outcome = .failed e v) (hd : v.decision = .rethrow) :
    i + 1 = (x.execute s plan cluster patience store state).attempts.length ∧
      (x.execute s plan cluster patience store state).result = .failed (.ofAttempt e) := by
  rcases x.execute_cases s plan cluster patience store state with
    ⟨-, hr⟩ | ⟨target, run, item, h, hr⟩
  · rw [hr] at ha
    cases ha
  · rw [hr] at ha ⊢
    exact h.of_rethrow item ha ho hd

/-- A result is ignored because the policy says so about the last attempt. -/
theorem of_ignored (h : (x.execute s plan cluster patience store state).result = .ignored) :
    ∃ i a e v, (x.execute s plan cluster patience store state).attempts[i]? = some a ∧
      i + 1 = (x.execute s plan cluster patience store state).attempts.length ∧
      a.outcome = .failed e v ∧ v.decision = .ignore := by
  rcases x.execute_ends s plan cluster patience store state with ⟨-, hr⟩ | ⟨a, ha, hs⟩
  · rw [h] at hr
    cases hr
  · obtain ⟨e, v, ho, hd⟩ := hs.of_ignored h
    rw [List.getLast?_eq_getElem?] at ha
    have hlt := (List.getElem?_eq_some_iff.1 ha).1
    exact ⟨_, a, e, v, ha, by omega, ho, hd⟩

end Executor

end Reattempt
