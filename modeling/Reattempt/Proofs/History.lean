import Reattempt.Proofs.Runs

/-!
# The history of a run

Where a run stands is a function of the attempts made so far: each retry that
the limit allows adds one to the count, may name another level, and may leave
the target for the next one, with an error. Nothing else is remembered between
attempts.

* `Attempt.retry?`: the retry that takes effect after an attempt, if any.
* `Stands`: where a run stands after some attempts; `Stands.append` joins two
  stretches of a run.
* `Leads.stands`, `Ends.stands`: what one attempt does to it.
* `Runs.stands`, `Runs.getElem?_attempts`: what a run does to it, at its end and
  before each attempt.
-/

namespace Reattempt

variable {σ τ ρ : Type}

namespace Outcome

/-- The error of a failed attempt. -/
def error? : Outcome ρ → Option AttemptError
  | failed e _ => some e
  | _ => none

theorem error?_eq_some_iff {o : Outcome ρ} {e : AttemptError} :
    o.error? = some e ↔ ∃ v, o = .failed e v := by
  cases o <;> simp [error?]

/-- What the caller got from an attempt, if it did not stop waiting before. -/
def received? : Outcome ρ → Option (Except AttemptError ρ)
  | answered response => some (.ok response)
  | failed e _ => some (.error e)
  | pending => none

end Outcome

namespace Attempt

variable (limit : Nat) (a : Attempt τ ρ)

/-- The retry that takes effect after an attempt: the policy asks for it and the limit on retries
allows it. -/
def retry? : Option Decision :=
  (a.outcome.verdict?.map Verdict.decision).filter fun d =>
    d.isRetry && decide (a.retryCount < limit)

/-- The level that is named with such a retry. -/
def named? : Option Consistency := (a.retry? limit).bind Decision.level?

/-- Whether the target is left for the next one. -/
def leaves : Bool :=
  match a.retry? limit with
  | some (.retryNextTarget _) => true
  | _ => false

/-- The address of a target that is left, and the error it is left with. -/
def left? (cluster : Cluster σ τ ρ) : Option (Address × AttemptError) :=
  if a.leaves limit then a.outcome.error?.map fun e => (cluster.address a.target, e) else none

variable {limit a}

theorem retry?_eq_some_iff {d : Decision} :
    a.retry? limit = some d ↔
      ∃ e v, a.outcome = .failed e v ∧ v.decision = d ∧ d.isRetry = true ∧
        a.retryCount < limit := by
  unfold retry?
  cases a.outcome with
  | answered response => simp [Outcome.verdict?]
  | pending => simp [Outcome.verdict?]
  | failed e v => simp [Outcome.verdict?, Option.filter_eq_some_iff, and_assoc]

theorem leaves_iff :
    a.leaves limit = true ↔
      ∃ e v level, a.outcome = .failed e v ∧ v.decision = .retryNextTarget level ∧
        a.retryCount < limit := by
  constructor
  · intro h
    unfold leaves at h
    split at h
    · rename_i level hr
      obtain ⟨e, v, ho, hd, -, hl⟩ := retry?_eq_some_iff.1 hr
      exact ⟨e, v, level, ho, hd, hl⟩
    · cases h
  · rintro ⟨e, v, level, ho, hd, hl⟩
    have hr : a.retry? limit = some (.retryNextTarget level) :=
      retry?_eq_some_iff.2 ⟨e, v, ho, hd, rfl, hl⟩
    simp only [leaves, hr]

end Attempt

/-- The store after the calls of some attempts. -/
def Store.after (s : Store) (as : List (Attempt τ ρ)) : Store :=
  s.applyAll (as.flatMap Attempt.effects)

/-- What a cluster remembers after the calls of some attempts. -/
def Cluster.after (cluster : Cluster σ τ ρ) (state : σ) (as : List (Attempt τ ρ)) : σ :=
  as.foldl (fun s a => (cluster.call s a.target a.consistency).2) state

/-- What a cluster replies to an attempt after some others. -/
def Cluster.reply (cluster : Cluster σ τ ρ) (state : σ) (as : List (Attempt τ ρ))
    (a : Attempt τ ρ) : Reply ρ :=
  (cluster.call (cluster.after state as) a.target a.consistency).1

theorem Store.after_append (s : Store) (as bs : List (Attempt τ ρ)) :
    s.after (as ++ bs) = (s.after as).after bs := by
  simp only [Store.after, Store.applyAll, List.flatMap_append, List.foldl_append]

theorem Cluster.after_append (cluster : Cluster σ τ ρ) (state : σ) (as bs : List (Attempt τ ρ)) :
    cluster.after state (as ++ bs) = cluster.after (cluster.after state as) bs := by
  simp only [Cluster.after, List.foldl_append]

/-- **Where a run stands after some attempts**, when it stood at `cur` before them. -/
structure Stands (limit : Nat) (cluster : Cluster σ τ ρ) (cur : Cursor σ)
    (as : List (Attempt τ ρ)) (c : Cursor σ) : Prop where
  position : c.position = cur.position + as.countP (Attempt.leaves limit)
  consistency :
    c.consistency = (as.filterMap (Attempt.named? limit)).getLast?.getD cur.consistency
  retryCount : c.retryCount = cur.retryCount + as.countP fun a => (a.retry? limit).isSome
  errors : c.errors = cur.errors ++ as.filterMap fun a => a.left? limit cluster
  store : c.store = cur.store.after as
  state : c.state = cluster.after cur.state as

theorem Stands.nil {limit : Nat} {cluster : Cluster σ τ ρ} {cur : Cursor σ} :
    Stands limit cluster cur [] cur :=
  ⟨rfl, rfl, rfl, by simp, rfl, rfl⟩

/-- Two stretches of a run make one. -/
theorem Stands.append {limit : Nat} {cluster : Cluster σ τ ρ} {c₀ c₁ c₂ : Cursor σ}
    {as bs : List (Attempt τ ρ)} (h : Stands limit cluster c₀ as c₁)
    (h' : Stands limit cluster c₁ bs c₂) : Stands limit cluster c₀ (as ++ bs) c₂ where
  position := by rw [h'.position, h.position, List.countP_append, Nat.add_assoc]
  consistency := by
    rw [h'.consistency, h.consistency, List.filterMap_append, List.getLast?_append, Option.getD_or]
  retryCount := by rw [h'.retryCount, h.retryCount, List.countP_append, Nat.add_assoc]
  errors := by rw [h'.errors, h.errors, List.filterMap_append, List.append_assoc]
  store := by rw [h'.store, h.store, Store.after_append]
  state := by rw [h'.state, h.state, Cluster.after_append]

variable {ctx : Context} {plan : Plan τ} {cluster : Cluster σ τ ρ} {target : τ} {cur : Cursor σ}

/-- An attempt without a retry after it moves nothing but the store and the cluster. -/
theorem stands_of_retry?_eq_none
    (h : (cur.attempt ctx cluster target).record.retry? ctx.terms.maxRetries = none) :
    Stands ctx.terms.maxRetries cluster cur [(cur.attempt ctx cluster target).record]
      (cur.attempt ctx cluster target).cursor where
  position := by simp [Attempt.leaves, h]
  consistency := by simp [Attempt.named?, h]
  retryCount := by simp [h]
  errors := by simp [Attempt.left?, Attempt.leaves, h]
  store := by simp [Store.after, Cursor.attempt_cursor_store]
  state := by simp [Cluster.after]

theorem stands_again {e : AttemptError} {v : Verdict} {level : Option Consistency}
    (fails : (cur.attempt ctx cluster target).record.outcome = .failed e v)
    (asks : v.decision = .retrySameTarget level) (allowed : cur.retryCount < ctx.terms.maxRetries) :
    Stands ctx.terms.maxRetries cluster cur [(cur.attempt ctx cluster target).record]
      ((cur.attempt ctx cluster target).cursor.retry level) := by
  have hr : (cur.attempt ctx cluster target).record.retry? ctx.terms.maxRetries =
      some (.retrySameTarget level) :=
    Attempt.retry?_eq_some_iff.2 ⟨e, v, fails, asks, rfl, allowed⟩
  constructor
  · simp [Attempt.leaves, hr]
  · cases level <;> simp [Attempt.named?, hr, Decision.level?]
  · simp [hr]
  · simp [Attempt.left?, Attempt.leaves, hr]
  · simp [Store.after, Cursor.attempt_cursor_store]
  · simp [Cluster.after]

theorem stands_onward {e : AttemptError} {v : Verdict} {level : Option Consistency}
    (fails : (cur.attempt ctx cluster target).record.outcome = .failed e v)
    (asks : v.decision = .retryNextTarget level) (allowed : cur.retryCount < ctx.terms.maxRetries) :
    Stands ctx.terms.maxRetries cluster cur [(cur.attempt ctx cluster target).record]
      (((cur.attempt ctx cluster target).cursor.retry level).leave (cluster.address target) e) := by
  have hr : (cur.attempt ctx cluster target).record.retry? ctx.terms.maxRetries =
      some (.retryNextTarget level) :=
    Attempt.retry?_eq_some_iff.2 ⟨e, v, fails, asks, rfl, allowed⟩
  constructor
  · simp [Attempt.leaves, hr]
  · cases level <;> simp [Attempt.named?, hr, Decision.level?]
  · simp [hr]
  · simp [Attempt.left?, Attempt.leaves, hr, fails, Outcome.error?]
  · simp [Store.after, Cursor.attempt_cursor_store]
  · simp [Cluster.after]

/-- **What an attempt that leads to another one does.** -/
theorem Leads.stands {more : List Event} {next : τ} {cur' : Cursor σ}
    (h : Leads ctx plan cluster target cur more next cur') :
    Stands ctx.terms.maxRetries cluster cur [(cur.attempt ctx cluster target).record] cur' := by
  cases h with
  | again fails asks allowed => exact stands_again fails asks allowed
  | onward fails asks allowed => exact stands_onward fails asks allowed

theorem Leads.retry?_isSome {more : List Event} {next : τ} {cur' : Cursor σ}
    (h : Leads ctx plan cluster target cur more next cur') :
    ((cur.attempt ctx cluster target).record.retry? ctx.terms.maxRetries).isSome := by
  cases h with
  | again fails asks allowed =>
    rw [Attempt.retry?_eq_some_iff.2 ⟨_, _, fails, asks, rfl, allowed⟩]; rfl
  | onward fails asks allowed =>
    rw [Attempt.retry?_eq_some_iff.2 ⟨_, _, fails, asks, rfl, allowed⟩]; rfl

/-- A next attempt is at a target of the plan, if this one is. -/
theorem Leads.item {more : List Event} {next : τ} {cur' : Cursor σ}
    (h : Leads ctx plan cluster target cur more next cur')
    (item : plan.item cur.position = some target) : plan.item cur'.position = some next := by
  cases h with
  | again => exact item
  | onward _ _ _ item' => exact item'

/-- **What the last attempt does.** -/
theorem Ends.stands {r : Run σ τ ρ} (h : Ends ctx plan cluster target cur r) :
    Stands ctx.terms.maxRetries cluster cur [(cur.attempt ctx cluster target).record] r.last := by
  cases h with
  | settled settles =>
    -- an outcome that settles the request asks for no retry
    refine stands_of_retry?_eq_none (Option.eq_none_iff_forall_ne_some.2 fun d hr => ?_)
    obtain ⟨e, v, fails, rfl, hd, -⟩ := Attempt.retry?_eq_some_iff.1 hr
    rw [fails] at settles
    cases hv : v.decision <;> simp_all [Outcome.course, Decision.isRetry]
  | limited fails asks full =>
    -- a retry that the limit forbids takes no effect
    refine stands_of_retry?_eq_none (Option.eq_none_iff_forall_ne_some.2 fun d hr => ?_)
    obtain ⟨-, -, -, -, -, allowed⟩ := Attempt.retry?_eq_some_iff.1 hr
    exact absurd allowed (Nat.not_lt.2 full)
  | exhausted fails asks allowed item stands =>
    subst stands
    exact stands_onward fails asks allowed

theorem Ends.attempts {r : Run σ τ ρ} (h : Ends ctx plan cluster target cur r) :
    r.attempts = [(cur.attempt ctx cluster target).record] := by
  cases h <;> rfl

/-- **Where a run stands at its end.** -/
theorem Runs.stands {r : Run σ τ ρ} (h : Runs ctx plan cluster target cur r) :
    Stands ctx.terms.maxRetries cluster cur r.attempts r.last := by
  induction h with
  | stop ends => rw [ends.attempts]; exact ends.stands
  | go leads rest ih => exact leads.stands.append ih

theorem Runs.getElem?_zero {r : Run σ τ ρ} (h : Runs ctx plan cluster target cur r) :
    r.attempts[0]? = some (cur.attempt ctx cluster target).record := by
  cases h with
  | stop ends => rw [ends.attempts]; rfl
  | go leads rest => rfl

/-- **Each attempt of a run**: where it is made, given the attempts before it, and what comes of
it: either it leads to the attempt after it, or it ends the run. -/
theorem Runs.getElem?_attempts {r : Run σ τ ρ} (h : Runs ctx plan cluster target cur r)
    (item : plan.item cur.position = some target) {i : Nat} {a : Attempt τ ρ}
    (ha : r.attempts[i]? = some a) :
    ∃ t c, plan.item c.position = some t ∧ c.retryCount = cur.retryCount + i ∧
      Stands ctx.terms.maxRetries cluster cur (r.attempts.take i) c ∧
      a = (c.attempt ctx cluster t).record ∧
      ((∃ more t' c', Leads ctx plan cluster t c more t' c' ∧
          r.attempts[i + 1]? = some (c'.attempt ctx cluster t').record) ∨
        ∃ r', Ends ctx plan cluster t c r' ∧ i + 1 = r.attempts.length ∧
          r.result = r'.result ∧ r.last = r'.last) := by
  induction h generalizing i with
  | @stop target cur r ends =>
    have hr := ends.attempts
    obtain ⟨rfl, rfl⟩ : i = 0 ∧ (cur.attempt ctx cluster target).record = a := by
      rw [hr] at ha
      cases i <;> simp_all
    exact ⟨target, cur, item, rfl, .nil, rfl, .inr ⟨r, ends, by rw [hr]; rfl, rfl, rfl⟩⟩
  | @go target next cur cur' more r leads rest ih =>
    cases i with
    | zero =>
      cases ha
      exact ⟨target, cur, item, rfl, .nil, rfl, .inl ⟨more, next, cur', leads, rest.getElem?_zero⟩⟩
    | succ i =>
      -- the attempt is one of the rest, and the first one comes before those before it
      obtain ⟨t, c, hc, hn, hs, rfl, hnext⟩ := ih (leads.item item) ha
      refine ⟨t, c, hc, ?_, leads.stands.append hs, rfl, ?_⟩
      · rw [hn, leads.retryCount_eq]; omega
      · rcases hnext with hnext | ⟨r', ends, hl, hresult, hlast⟩
        · exact .inl hnext
        · exact .inr ⟨r', ends, by rw [Run.attempts_after, List.length_cons, ← hl], hresult, hlast⟩

end Reattempt
