import Reattempt.Proofs.Bound
import Reattempt.Proofs.Limit
import Reattempt.Proofs.Transparency

/-!
# What is told of a request

The log of a request is a function of its attempts and its result. It opens the
span of the request, tells the attempts one after the other, each inside the span
of its target, and closes with the number of retries and the outcome.

* `Attempt.account`, `Attempt.accounts`: the events of one attempt, and of some in
  a row.
* `Attempt.entries`, `Attempt.log`: how they are written, with each message and
  each field; `Result.records`, `Result.farewell`: how the end is written.
* `Result.retries?`: the number of retries that is told at the end.
* `Runs.events_eq`, `Runs.retries?_eq`: the log of a run, and the number at its
  end.
* `Executor.execute_events`, `Executor.execute_entries`: the log of an execution,
  as events and as entries.
-/

namespace Reattempt

variable {σ τ ρ : Type}

/-- The entry of an event inside the span of a target. -/
def Entry.inTarget (severity : Severity) (message : Option String) (fields : List Field) : Entry :=
  .event severity message fields (some "Executing request")

namespace Attempt

/-- What the log tells of an attempt: its events, and that the limit forbids the retry asked for, if
it does. -/
def account (limit : Nat) (a : Attempt τ ρ) : List Event :=
  a.events ++ if a.suppressed limit then [.limited a.retryCount limit] else []

/-- **What the log tells of attempts in a row**, after an attempt at some place in the plan or after
none: a target whenever the place is another one than before, and then the attempt. -/
def accounts (limit : Nat) (address : τ → Address) : Option Nat → List (Attempt τ ρ) → List Event
  | _, [] => []
  | before, a :: as =>
    (if before = some a.position then [] else [.taken (address a.target)]) ++
      a.account limit ++ accounts limit address (some a.position) as

/-- **The entries of an attempt**, given those of the remarks on a verdict. They tell how it starts
and how it ends; after a failure also the remarks, the decision of the policy, and that the limit
forbids the retry asked for, if it does. -/
def entries (limit : Nat) (remarks : Verdict → List Entry) (a : Attempt τ ρ) : List Entry :=
  .inTarget .trace (some "Execution started")
      [⟨"consistency", a.consistency.title⟩, ⟨"retry_count", toString a.retryCount⟩] ::
    match a.outcome with
    | .answered _ => [.inTarget .trace (some "Request succeeded") []]
    | .failed e v =>
      .inTarget .trace (some "Request failed") [⟨"last_error", e.message⟩] :: remarks v ++
        .inTarget .trace none [⟨"retry_decision", v.decision.text⟩] ::
          if v.decision.isRetry = true ∧ limit ≤ a.retryCount then
            [.inTarget .debug (some "Retry limit reached, rethrowing the last error")
              [⟨"retry_count", toString a.retryCount⟩, ⟨"max_retries", toString limit⟩]]
          else []
    | .pending => []

/-- **The entries of attempts in a row**, after an attempt at some place in the plan or after none.
A span begins whenever the place is another one than before; remarks stand outside of it. -/
def log (limit : Nat) (address : τ → Address) : Option Nat → List (Attempt τ ρ) → List Entry
  | _, [] => []
  | before, a :: as =>
    (if before = some a.position then []
      else [.span "Executing request" [⟨"node", (address a.target).text⟩]]) ++
      a.entries limit (fun v => v.remarks.map (Remark.entry (some "Request"))) ++
      log limit address (some a.position) as

end Attempt

namespace Result

/-- The number of retries that is told when a request is over, after so many attempts. Where the
plan has run out, a last retry was granted and not made. -/
def retries? (attempts : Nat) : Result ρ → Option Nat
  | unfinished => none
  | failed .emptyPlan => some 0
  | failed (.noHostAvailable _) => some attempts
  | completed _ | ignored | failed (.lastAttempt _) | failed (.requestTimeout _) =>
    some (attempts - 1)

/-- The fields that the span of a request gets for its result. -/
def records : Result ρ → List Entry
  | completed _ => [.record "Request" ⟨"outcome", "completed"⟩]
  | ignored => [.record "Request" ⟨"outcome", "ignored"⟩]
  | failed e =>
    [.record "Request" ⟨"otel.status_code", "ERROR"⟩,
     .record "Request" ⟨"otel.status_message", e.message⟩]
  | unfinished => []

theorem retries?_eq_some {result : Result ρ} {n attempts : Nat}
    (hcount : n + 1 = attempts + if result.exhausted?.isSome then 1 else 0)
    (hplan : result ≠ .failed .emptyPlan) (hfinished : result ≠ .unfinished) :
    result.retries? attempts = some n := by
  have hmade : result.exhausted? = none → attempts - 1 = n := by
    intro hnone
    rw [hnone] at hcount
    simp only [Option.isSome_none, Bool.false_eq_true, if_false] at hcount
    omega
  cases result with
  | completed response => exact congrArg some (hmade rfl)
  | ignored => exact congrArg some (hmade rfl)
  | unfinished => exact absurd rfl hfinished
  | failed e =>
    cases e with
    | emptyPlan => exact absurd rfl hplan
    | lastAttempt e => exact congrArg some (hmade rfl)
    | requestTimeout limit => exact congrArg some (hmade rfl)
    | noHostAvailable errors =>
      have hall : n + 1 = attempts + 1 := hcount
      exact congrArg some (by omega)

/-- The event that closes the log of a request that failed. -/
def farewell : Result ρ → List Entry
  | failed _ => [.event .debug (some "Finished with error") [] (some "Request")]
  | completed _ | ignored | unfinished => []

end Result

/-! ### The log of a run -/

section Runs

variable {ctx : Context} {plan : Plan τ} {cluster : Cluster σ τ ρ} {target : τ} {cur : Cursor σ}
  {r : Run σ τ ρ}

theorem Attempt.account_of_lt {limit : Nat} {a : Attempt τ ρ} (h : a.retryCount < limit) :
    a.account limit = a.events := by
  rw [account, suppressed_eq_false_of_lt h, if_neg Bool.false_ne_true, List.append_nil]

/-- An attempt at another place than before opens the span of its target. -/
theorem Attempt.accounts_of_ne {limit : Nat} {address : τ → Address} {before : Option Nat}
    {a : Attempt τ ρ} {as : List (Attempt τ ρ)} (h : before ≠ some a.position) :
    accounts limit address before (a :: as) =
      .taken (address a.target) :: accounts limit address (some a.position) (a :: as) := by
  simp only [accounts, if_neg h, if_true, List.nil_append, List.cons_append]

theorem Runs.attempts_eq_cons (h : Runs ctx plan cluster target cur r) :
    ∃ as, r.attempts = (cur.attempt ctx cluster target).record :: as := by
  cases h with
  | stop ends => exact ⟨[], ends.attempts⟩
  | go leads rest => exact ⟨_, rfl⟩

/-- **The log of a run** tells its attempts, the first one inside a span that is open already. -/
theorem Runs.events_eq (h : Runs ctx plan cluster target cur r) :
    r.events =
      Attempt.accounts ctx.terms.maxRetries cluster.address (some cur.position) r.attempts ++
        (Run.ended r.last r.result : Run σ τ ρ).events := by
  induction h with
  | @stop target cur r ends =>
    rw [ends.events, ends.attempts]
    simp [Attempt.accounts, Attempt.account]
  | @go target next cur cur' more r leads rest ih =>
    have haccount : (cur.attempt ctx cluster target).record.account ctx.terms.maxRetries =
        (cur.attempt ctx cluster target).record.events := Attempt.account_of_lt leads.allowed
    obtain ⟨as, has⟩ := rest.attempts_eq_cons
    rw [Run.events_after, ih, Run.attempts_after, Attempt.accounts, haccount]
    -- the next attempt opens a span if it is made at the next target
    cases leads with
    | again => simp
    | onward =>
      have hne : some cur.position ≠ some (cur.position + 1) := by simp
      have hopens : Attempt.accounts ctx.terms.maxRetries cluster.address (some cur.position)
          r.attempts = .taken (cluster.address next) ::
            Attempt.accounts ctx.terms.maxRetries cluster.address (some (cur.position + 1))
              r.attempts := by
        rw [has]
        exact Attempt.accounts_of_ne hne
      simp [hopens]

/-- The number of retries when a run is over: each attempt but the first one is a retry, and so is
the one that was granted where the plan has run out. -/
theorem Runs.retryCount_last (h : Runs ctx plan cluster target cur r) :
    r.last.retryCount + 1 =
      cur.retryCount + r.attempts.length + if r.result.exhausted?.isSome then 1 else 0 := by
  induction h with
  | stop ends =>
    cases ends with
    | settled settles => simp [Outcome.exhausted?_of_course settles]
    | limited => simp [Run.limited, Result.exhausted?_ofAttempt]
    | exhausted fails asks allowed item stands =>
      subst stands
      simp [Result.exhausted?_ofExhausted]
  | @go target next cur cur' more r leads rest ih =>
    have hcount := leads.retryCount_eq
    show r.last.retryCount + 1 = cur.retryCount + (r.attempts.length + 1) +
      if r.result.exhausted?.isSome then 1 else 0
    omega

/-- **The number of retries that is told** at the end of a run from the beginning. -/
theorem Runs.retries?_eq {level : Consistency} {store : Store} {state : σ}
    (h : Runs ctx plan cluster target (.start level store state) r)
    (item : plan.item 0 = some target) :
    (Run.ended r.last r.result : Run σ τ ρ).events =
      (r.result.retries? r.attempts.length).toList.map Event.retried := by
  obtain ⟨a, -, -, -, hs⟩ := h.settles item
  have hcount : r.last.retryCount + 1 =
      r.attempts.length + if r.result.exhausted?.isSome then 1 else 0 := by
    rw [h.retryCount_last]
    simp [Cursor.start]
  by_cases hfinished : r.result = .unfinished
  · rw [hfinished]
    rfl
  · rw [Result.retries?_eq_some hcount hs.ne_emptyPlan hfinished]
    cases hr : r.result with
    | unfinished => exact absurd hr hfinished
    | _ => rfl

end Runs

/-! ### The log as entries -/

namespace Attempt

variable {limit : Nat} {a : Attempt τ ρ}

/-- What is told of an attempt, as entries. -/
theorem map_entry_account :
    (a.account limit).map Event.entry =
      a.entries limit fun v => v.remarks.map (Remark.entry (some "Request")) := by
  unfold account entries events
  cases ho : a.outcome with
  | answered response =>
    have hs : a.suppressed limit = false := by rw [suppressed, ho]; rfl
    rw [hs]
    rfl
  | pending =>
    have hs : a.suppressed limit = false := by rw [suppressed, ho]; rfl
    rw [hs]
    rfl
  | failed e v =>
    have hs : a.suppressed limit = true ↔ v.decision.isRetry = true ∧ limit ≤ a.retryCount := by
      simp [suppressed_iff, ho]
    have hremarks : (v.remarks.map Event.remarked).map Event.entry =
        v.remarks.map (Remark.entry (some "Request")) := List.map_map
    simp only [← hremarks, List.cons_append, List.map_cons, List.map_append, List.append_assoc]
    by_cases hfull : v.decision.isRetry = true ∧ limit ≤ a.retryCount
    · simp only [if_pos (hs.2 hfull), if_pos hfull]
      rfl
    · simp only [if_neg (mt hs.1 hfull), if_neg hfull]
      rfl

/-- What is told of attempts in a row, as entries. -/
theorem map_entry_accounts (limit : Nat) (address : τ → Address) (before : Option Nat)
    (as : List (Attempt τ ρ)) :
    (accounts limit address before as).map Event.entry = log limit address before as := by
  induction as generalizing before with
  | nil => rfl
  | cons a as ih =>
    rw [accounts, log, List.map_append, List.map_append, ih, map_entry_account]
    congr 2
    split <;> rfl

end Attempt

/-- How a request ends, as entries. -/
theorem Result.map_entry_events (result : Result ρ) :
    result.events.map Event.entry = result.records ++ result.farewell := by
  cases result <;> rfl

/-! ### The log of an execution -/

namespace Executor

variable (x : Executor) (s : Statement) (plan : Plan τ) (cluster : Cluster σ τ ρ)
  (patience : Option Duration) (store : Store) (state : σ)

/-- **The log of an execution.** -/
theorem execute_events :
    (x.execute s plan cluster patience store state).events =
      .opened s.query.text (x.terms s store).consistency ::
        Attempt.accounts (x.terms s store).maxRetries cluster.address none
          (x.execute s plan cluster patience store state).attempts ++
        ((x.execute s plan cluster patience store state).result.retries?
          (x.execute s plan cluster patience store state).attempts.length).toList.map
            Event.retried ++
        (x.execute s plan cluster patience store state).result.events := by
  rcases x.execute_cases s plan cluster patience store state with
    ⟨-, hr⟩ | ⟨target, run, item, h, hr⟩
  · rw [hr]
    rfl
  · obtain ⟨as, has⟩ := h.attempts_eq_cons
    -- the first attempt opens the first span
    have hopens : Attempt.accounts (x.terms s store).maxRetries cluster.address none run.attempts =
        .taken (cluster.address target) ::
          Attempt.accounts (x.terms s store).maxRetries cluster.address (some 0) run.attempts := by
      rw [has]
      exact Attempt.accounts_of_ne nofun
    have hevents : run.events =
        Attempt.accounts (x.terms s store).maxRetries cluster.address (some 0) run.attempts ++
          (Run.ended run.last run.result : Run σ τ ρ).events := h.events_eq
    rw [hr]
    simp only [hopens, hevents, h.retries?_eq item, List.cons_append, List.append_assoc]

/-- **The log of an execution, as entries.** -/
theorem execute_entries :
    (x.execute s plan cluster patience store state).entries =
      .span "Request" [⟨"kind", "unprepared"⟩, ⟨"contents", s.query.text⟩,
          ⟨"consistency", (x.terms s store).consistency.title⟩] ::
        Attempt.log (x.terms s store).maxRetries cluster.address none
          (x.execute s plan cluster patience store state).attempts ++
        ((x.execute s plan cluster patience store state).result.retries?
          (x.execute s plan cluster patience store state).attempts.length).toList.map
            (fun n => .record "Request" ⟨"retries", toString n⟩) ++
        (x.execute s plan cluster patience store state).result.records ++
        (x.execute s plan cluster patience store state).result.farewell := by
  rw [Run.entries, execute_events, List.map_append, List.map_append, List.map_cons,
    Attempt.map_entry_accounts, List.map_map, Result.map_entry_events, ← List.append_assoc]
  rfl

end Executor

end Reattempt
