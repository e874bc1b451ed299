import Reattempt.Proofs.Narrative

/-!
# The whole log of a request

The log of a request can be counted on: nothing that happens is left out, and
nothing is told that did not happen.

* `Attempt.outline`: what is written of an attempt inside the span of its target.
* `Run.filter_entries`, `Executor.filter_events_of_attempt`,
  `Executor.filter_events_of_not_attempt`: parts of the log, inside and outside of
  the attempts.
* `Lawful.flatMap_suppressed`: the limit is reached after the last attempt only.
* `Chronicled`, `execute_chronicled`: what can be counted in the log of every
  execution.
-/

namespace Reattempt

variable {σ τ ρ : Type}

/-! ### Parts of the log -/

namespace Entry

/-- Whether an entry begins a span of a name. -/
def begins (name : String) : Entry → Bool
  | span n _ => n == name
  | _ => false

/-- Whether an entry gives a span one more field. -/
def isRecord : Entry → Bool
  | record .. => true
  | _ => false

/-- Whether an entry is an event inside a span of a name. -/
def isIn (name : String) : Entry → Bool
  | event _ _ _ s => s == some name
  | _ => false

/-- Whether an entry is an event with a message. -/
def tells (message : String) : Entry → Bool
  | event _ m _ _ => m == some message
  | _ => false

theorem isIn_inTarget (severity : Severity) (message : Option String) (fields : List Field) :
    (inTarget severity message fields).isIn "Executing request" = true := rfl

/-- A listener who asks for everything is told every entry. -/
theorem isVisible_trace (e : Entry) : e.isVisible .trace = true := by
  unfold isVisible
  cases e.severity <;> rfl

end Entry

/-- How the log says that the limit forbids a retry. -/
def limitMessage : String := "Retry limit reached, rethrowing the last error"

/-- How the log says that a request has failed. -/
def failureMessage : String := "Finished with error"

/-- No remark of a policy reads like an event of the request. -/
theorem Remark.tells_entry (span : Option String) (r : Remark) :
    (r.entry span).tells limitMessage = false ∧ (r.entry span).tells failureMessage = false := by
  cases r with
  | handled f d =>
    have hmessage : f.handledMessage ≠ limitMessage ∧ f.handledMessage ≠ failureMessage := by
      unfold Failure.handledMessage
      cases f.category <;> decide
    simpa [entry, Entry.tells] using hmessage
  | fallback category n d => constructor <;> rfl
  | lowered asked lower =>
    -- the messages differ in their first letter, whatever the levels are
    simp [entry, Entry.tells, limitMessage, failureMessage, ← String.toList_inj]
  | notIdempotent => constructor <;> rfl

namespace Event

/-- The events that are told of an attempt. -/
def isOfAttempt : Event → Bool
  | started .. | succeeded | failed _ | remarked _ | decided _ | limited .. => true
  | opened .. | taken _ | retried _ | completed | ignored | marked | reported _ | finished => false

/-- The events that are told inside the span of a target: all that are told of an attempt but the
remarks of policies. -/
def isInTarget : Event → Bool
  | started .. | succeeded | failed _ | decided _ | limited .. => true
  | _ => false

/-- Whether an event tells that the limit forbids a retry. -/
def isLimited : Event → Bool
  | limited .. => true
  | _ => false

/-- Whether an event opens the span of a request. -/
def isOpened : Event → Bool
  | opened .. => true
  | _ => false

/-- Whether an event is told as a field of the span of a request. -/
def isRecorded : Event → Bool
  | retried _ | completed | ignored | marked | reported _ => true
  | _ => false

/-- Whether an event closes the log of a request that failed. -/
def isFinished : Event → Bool
  | finished => true
  | _ => false

/-- What is told inside the span of a target is told of an attempt. -/
theorem isOfAttempt_of_isInTarget {ev : Event} (h : ev.isInTarget = true) :
    ev.isOfAttempt = true := by
  cases ev with
  | started | succeeded | failed | decided | limited => rfl
  | _ => cases h

theorem isInTarget_of_isLimited {ev : Event} (h : ev.isLimited = true) : ev.isInTarget = true := by
  cases ev with
  | limited => rfl
  | _ => cases h

/-- How a request begins and how it ends is not told of an attempt. -/
theorem isOfAttempt_eq_false {ev : Event}
    (h : ev.isOpened = true ∨ ev.isRecorded = true ∨ ev.isFinished = true) :
    ev.isOfAttempt = false := by
  cases ev with
  | started | succeeded | failed | remarked | decided | limited =>
    rcases h with h | h | h <;> cases h
  | _ => rfl

theorem begins_request (ev : Event) : ev.entry.begins "Request" = ev.isOpened := by
  cases ev with
  | remarked r => cases r <;> rfl
  | _ => rfl

theorem begins_target (ev : Event) :
    ev.entry.begins "Executing request" = ev.taken?.isSome := by
  cases ev with
  | remarked r => cases r <;> rfl
  | _ => rfl

theorem isRecord_entry (ev : Event) : ev.entry.isRecord = ev.isRecorded := by
  cases ev with
  | remarked r => cases r <;> rfl
  | _ => rfl

theorem tells_failureMessage (ev : Event) : ev.entry.tells failureMessage = ev.isFinished := by
  cases ev with
  | remarked r => exact (r.tells_entry (some requestSpan)).2
  | _ => rfl

theorem isIn_target (ev : Event) : ev.entry.isIn "Executing request" = ev.isInTarget := by
  cases ev with
  | remarked r => cases r <;> rfl
  | _ => rfl

theorem tells_limitMessage (ev : Event) : ev.entry.tells limitMessage = ev.isLimited := by
  cases ev with
  | remarked r => exact (r.tells_entry (some requestSpan)).1
  | _ => rfl

/-- The spans of the targets that are taken from the plan. -/
theorem map_entry_taken (events : List Event) :
    (events.filter fun ev => ev.taken?.isSome).map entry =
      (events.filterMap taken?).map fun address =>
        .span "Executing request" [⟨"node", address.text⟩] := by
  induction events with
  | nil => rfl
  | cons ev events ih =>
    cases ev with
    | taken address => exact congrArg (_ :: ·) ih
    | _ => exact ih

end Event

/-- The part of a log that belongs to certain events. -/
theorem Run.filter_entries {r : Run σ τ ρ} {p : Entry → Bool} {q : Event → Bool}
    (h : ∀ ev : Event, p ev.entry = q ev) :
    r.entries.filter p = (r.events.filter q).map Event.entry := by
  rw [entries, List.filter_map]
  congr 1
  exact List.filter_congr fun ev _ => h ev

namespace Attempt

variable {limit : Nat} {a : Attempt τ ρ}

theorem isOfAttempt_of_mem_account {ev : Event} (h : ev ∈ a.account limit) :
    ev.isOfAttempt = true := by
  rw [account, List.mem_append] at h
  rcases h with h | h
  · unfold events at h
    cases ho : a.outcome with
    | answered response =>
      rw [ho] at h
      simp only [List.mem_cons, List.not_mem_nil, or_false] at h
      rcases h with rfl | rfl <;> rfl
    | pending =>
      rw [ho] at h
      rw [List.mem_singleton.1 h]; rfl
    | failed e v =>
      rw [ho] at h
      simp only [List.mem_cons, List.mem_append, List.mem_map, List.not_mem_nil, or_false] at h
      rcases h with rfl | (rfl | ⟨remark, -, rfl⟩) | rfl <;> rfl
  · split at h
    · rw [List.mem_singleton.1 h]; rfl
    · cases h

/-- **A part of what is told of attempts**, to which no target belongs. -/
theorem filter_accounts {p : Event → Bool} (htaken : ∀ address, p (.taken address) = false)
    (limit : Nat) (address : τ → Address) (before : Option Nat) (as : List (Attempt τ ρ)) :
    (accounts limit address before as).filter p =
      as.flatMap fun a => (a.account limit).filter p := by
  induction as generalizing before with
  | nil => rfl
  | cons a as ih =>
    have hopens : (if before = some a.position then []
        else [Event.taken (address a.target)]).filter p = [] := by
      split
      · rfl
      · simp [htaken]
    rw [accounts, List.filter_append, List.filter_append, hopens, ih, List.nil_append,
      List.flatMap_cons]

/-- The entries of an attempt inside the span of its target: all but the remarks. -/
def outline (limit : Nat) (a : Attempt τ ρ) : List Entry := a.entries limit fun _ => []

/-- Inside the span of its target stand all entries of an attempt but the remarks. -/
theorem filter_map_entry_account :
    ((a.account limit).map Event.entry).filter (·.isIn "Executing request") = a.outline limit := by
  have hremarks : ∀ v : Verdict, (v.remarks.map (Remark.entry (some "Request"))).filter
      (·.isIn "Executing request") = [] := by
    intro v
    refine List.filter_eq_nil_iff.2 fun entry h => ?_
    obtain ⟨remark, -, rfl⟩ := List.mem_map.1 h
    cases remark <;> simp [Remark.entry, Entry.isIn]
  rw [map_entry_account]
  unfold outline entries
  cases a.outcome with
  | answered response => rfl
  | pending => rfl
  | failed e v =>
    simp only [List.filter_cons, List.filter_append, hremarks, Entry.isIn_inTarget, if_true]
    by_cases hfull : v.decision.isRetry = true ∧ limit ≤ a.retryCount
    · simp only [if_pos hfull]
      rfl
    · simp only [if_neg hfull]
      rfl

/-- That the limit forbids a retry is told of an attempt once, if it does. -/
theorem filter_account_isLimited :
    (a.account limit).filter Event.isLimited =
      if a.suppressed limit then [.limited a.retryCount limit] else [] := by
  have hevents : a.events.filter Event.isLimited = [] := by
    unfold events
    cases a.outcome <;> simp [Event.isLimited]
  rw [account, List.filter_append, hevents, List.nil_append]
  split <;> rfl

end Attempt

/-- How a request ends is not told of an attempt. -/
theorem Result.isOfAttempt_events (result : Result ρ) :
    ∀ ev ∈ result.events, ev.isOfAttempt = false := by
  cases result <;> simp [events, Event.isOfAttempt]

namespace Executor

variable (x : Executor) (s : Statement) (plan : Plan τ) (cluster : Cluster σ τ ρ)
  (patience : Option Duration) (store : Store) (state : σ)

/-- A part of the log of an execution to which no target belongs. -/
theorem filter_events {p : Event → Bool} (htaken : ∀ address, p (.taken address) = false) :
    (x.execute s plan cluster patience store state).events.filter p =
      [Event.opened s.query.text (x.terms s store).consistency].filter p ++
        ((x.execute s plan cluster patience store state).attempts.flatMap fun a =>
          (a.account (x.terms s store).maxRetries).filter p) ++
        (((x.execute s plan cluster patience store state).result.retries?
          (x.execute s plan cluster patience store state).attempts.length).toList.map
            Event.retried).filter p ++
        (x.execute s plan cluster patience store state).result.events.filter p := by
  rw [execute_events, ← List.singleton_append, List.filter_append, List.filter_append,
    List.filter_append, Attempt.filter_accounts htaken]

/-- A part of the log of an execution to which nothing belongs but what is told of attempts. -/
theorem filter_events_of_attempt {p : Event → Bool}
    (hp : ∀ ev : Event, p ev = true → ev.isOfAttempt = true) :
    (x.execute s plan cluster patience store state).events.filter p =
      (x.execute s plan cluster patience store state).attempts.flatMap fun a =>
        (a.account (x.terms s store).maxRetries).filter p := by
  have hnone : ∀ events : List Event, (∀ ev ∈ events, ev.isOfAttempt = false) →
      events.filter p = [] := by
    refine fun events h => List.filter_eq_nil_iff.2 fun ev hev hpev => ?_
    have hnot := h ev hev
    rw [hp ev hpev] at hnot
    cases hnot
  have hopened := hnone [.opened s.query.text (x.terms s store).consistency]
    (List.forall_mem_singleton.2 rfl)
  have hretried := hnone (((x.execute s plan cluster patience store state).result.retries?
    (x.execute s plan cluster patience store state).attempts.length).toList.map .retried)
    (List.forall_mem_map.2 fun _ _ => rfl)
  have hresult := hnone (x.execute s plan cluster patience store state).result.events
    (x.execute s plan cluster patience store state).result.isOfAttempt_events
  have htaken : ∀ address, p (.taken address) = false :=
    fun address => Bool.eq_false_iff.2 fun hpev => Bool.false_ne_true (hp _ hpev)
  rw [filter_events x s plan cluster patience store state htaken, hopened, hretried, hresult,
    List.nil_append, List.append_nil, List.append_nil]

/-- A part of the log of an execution to which nothing belongs that is told of an attempt. -/
theorem filter_events_of_not_attempt {p : Event → Bool}
    (htaken : ∀ address, p (.taken address) = false)
    (hp : ∀ ev : Event, p ev = true → ev.isOfAttempt = false) :
    (x.execute s plan cluster patience store state).events.filter p =
      [Event.opened s.query.text (x.terms s store).consistency].filter p ++
        (((x.execute s plan cluster patience store state).result.retries?
          (x.execute s plan cluster patience store state).attempts.length).toList.map
            Event.retried).filter p ++
        (x.execute s plan cluster patience store state).result.events.filter p := by
  have hnone : ((x.execute s plan cluster patience store state).attempts.flatMap fun a =>
      (a.account (x.terms s store).maxRetries).filter p) = [] := by
    refine List.flatMap_eq_nil_iff.2 fun a _ => List.filter_eq_nil_iff.2 fun ev hev hpev => ?_
    have hnot := hp ev hpev
    rw [Attempt.isOfAttempt_of_mem_account hev] at hnot
    cases hnot
  rw [filter_events x s plan cluster patience store state htaken, hnone, List.append_nil]

end Executor

/-- The limit forbids a retry after the last attempt at most. -/
theorem Lawful.suppressed_eq_false {terms : Terms} {patience : Option Duration} {plan : Plan τ}
    {cluster : Cluster σ τ ρ} {store : Store} {state : σ} {as : List (Attempt τ ρ)}
    (h : Lawful terms patience plan cluster store state as) {i : Nat} {a : Attempt τ ρ}
    (ha : as[i]? = some a) (hi : i + 1 < as.length) :
    a.suppressed terms.maxRetries = false := by
  obtain ⟨-, -, -, -, hlimit, -⟩ := h.followed i a _ ha (List.getElem?_eq_getElem hi)
  have hcount := (h.placed i a ha).2
  exact Attempt.suppressed_eq_false_of_lt (by omega)

/-- What belongs to the suppressed attempts belongs to the last one, if it is suppressed. -/
theorem Lawful.flatMap_suppressed {terms : Terms} {patience : Option Duration} {plan : Plan τ}
    {cluster : Cluster σ τ ρ} {store : Store} {state : σ} {as : List (Attempt τ ρ)}
    (h : Lawful terms patience plan cluster store state as) (f : Attempt τ ρ → Event) :
    (as.flatMap fun a => if a.suppressed terms.maxRetries then [f a] else []) =
      (as.getLast?.filter fun a => a.suppressed terms.maxRetries).toList.map f := by
  rcases List.eq_nil_or_concat as with rfl | ⟨before, a, rfl⟩
  · rfl
  rw [List.concat_eq_append] at h ⊢
  have hbefore : (before.flatMap fun a =>
      if a.suppressed terms.maxRetries then [f a] else []) = [] := by
    refine List.flatMap_eq_nil_iff.2 fun b hb => ?_
    obtain ⟨i, hi⟩ := List.mem_iff_getElem?.1 hb
    have hlt := (List.getElem?_eq_some_iff.1 hi).1
    have hi' : (before ++ [a])[i]? = some b := by rw [List.getElem?_append_left hlt, hi]
    have hnot := h.suppressed_eq_false hi' (by rw [List.length_append]; simp; omega)
    rw [hnot]
    rfl
  rw [List.flatMap_append, hbefore, List.getLast?_concat]
  cases hs : a.suppressed terms.maxRetries <;> simp [hs, Option.filter_some]

/-- Each attempt is made at a target that is taken from the plan. -/
theorem Runs.position_lt_taken {ctx : Context} {plan : Plan τ} {cluster : Cluster σ τ ρ}
    {target : τ} {cur : Cursor σ} {r : Run σ τ ρ} (h : Runs ctx plan cluster target cur r)
    (item : plan.item cur.position = some target) {a : Attempt τ ρ} (ha : a ∈ r.attempts) :
    a.position < r.taken plan := by
  obtain ⟨i, hi⟩ := List.mem_iff_getElem?.1 ha
  obtain ⟨t, c, hc, -, hstands, rfl, -⟩ := h.getElem?_attempts item hi
  have hle : c.position ≤ r.last.position := by
    rw [hstands.position, h.stands.position]
    exact Nat.add_le_add_left (List.take_sublist i r.attempts).countP_le _
  show c.position < r.taken plan
  rcases Nat.lt_or_eq_of_le hle with hlt | heq
  · exact Nat.lt_of_lt_of_le hlt (Nat.le_add_right _ _)
  · simp [Run.taken, ← heq, hc]

/-- The targets that are taken from the plan are those at which an attempt is made. -/
theorem Executor.lt_taken_iff (x : Executor) (s : Statement) (plan : Plan τ)
    (cluster : Cluster σ τ ρ) (patience : Option Duration) (store : Store) (state : σ) (k : Nat) :
    k < (x.execute s plan cluster patience store state).taken plan ↔
      ∃ a ∈ (x.execute s plan cluster patience store state).attempts, a.position = k := by
  rcases x.execute_cases s plan cluster patience store state with
    ⟨item, hr⟩ | ⟨target, run, item, h, hr⟩
  · rw [hr]
    simp [Run.taken, Run.ended, Cursor.start, item]
  · rw [hr]
    constructor
    · intro hk
      obtain ⟨a, ha, hposition, -⟩ := h.tried item rfl (Nat.zero_le k) hk
      exact ⟨a, ha, hposition⟩
    · rintro ⟨a, ha, rfl⟩
      exact h.position_lt_taken item ha

/-- An attempt that is still under way leaves the request unfinished. -/
theorem Executor.of_pending (x : Executor) (s : Statement) (plan : Plan τ)
    (cluster : Cluster σ τ ρ) (patience : Option Duration) (store : Store) (state : σ) {i : Nat}
    {a : Attempt τ ρ} (ha : (x.execute s plan cluster patience store state).attempts[i]? = some a)
    (hp : a.outcome = .pending) :
    (x.execute s plan cluster patience store state).result = .unfinished := by
  have hlast : i + 1 = (x.execute s plan cluster patience store state).attempts.length := by
    refine Nat.le_antisymm (List.getElem?_eq_some_iff.1 ha).1 (Nat.le_of_not_lt fun hlt => ?_)
    have hlaw := x.attempts_lawful s plan cluster patience store state
    obtain ⟨e, v, level, ho, -⟩ := hlaw.followed i a _ ha (List.getElem?_eq_getElem hlt)
    rw [hp] at ho
    cases ho
  exact (x.execute_settles s plan cluster patience store state ha hlast).unique (.unfinished hp)

/-- A request makes no attempt only if its plan is empty. -/
theorem Executor.attempts_eq_nil_iff (x : Executor) (s : Statement) (plan : Plan τ)
    (cluster : Cluster σ τ ρ) (patience : Option Duration) (store : Store) (state : σ) :
    (x.execute s plan cluster patience store state).attempts = [] ↔
      (x.execute s plan cluster patience store state).result = .failed .emptyPlan := by
  rcases x.execute_ends s plan cluster patience store state with ⟨hnil, hr⟩ | ⟨a, ha, hs⟩
  · exact iff_of_true hnil hr
  · refine iff_of_false (fun hnil => ?_) hs.ne_emptyPlan
    rw [hnil] at ha
    cases ha

/-- **What can be counted in the log of a request**, for a listener who is told everything. -/
structure Chronicled (terms : Terms) (plan : Plan τ) (cluster : Cluster σ τ ρ) (store : Store)
    (r : Run σ τ ρ) : Prop where
  /-- Nothing is hidden from a listener who asks for everything. -/
  visible : r.entries.filter (·.isVisible .trace) = r.entries
  /-- The log is that of the attempts, between the beginning of the request and its end. -/
  whole : r.entries =
    .span "Request" [⟨"kind", "unprepared"⟩, ⟨"contents", terms.query.text⟩,
        ⟨"consistency", terms.consistency.title⟩] ::
      Attempt.log terms.maxRetries cluster.address none r.attempts ++
      (r.result.retries? r.attempts.length).toList.map
        (fun n => .record "Request" ⟨"retries", toString n⟩) ++
      r.result.records ++ r.result.farewell
  /-- There is one span for the request. -/
  request : r.entries.filter (·.begins "Request") =
    [.span "Request" [⟨"kind", "unprepared"⟩, ⟨"contents", terms.query.text⟩,
      ⟨"consistency", terms.consistency.title⟩]]
  /-- There is one span for each target that is taken from the plan, in the order of the plan and
  with its address. -/
  targets : r.entries.filter (·.begins "Executing request") =
    ((List.range (r.taken plan)).filterMap (cluster.addressAt plan)).map fun address =>
      .span "Executing request" [⟨"node", address.text⟩]
  /-- The targets that are taken are those at which an attempt is made. -/
  visited : ∀ k, k < r.taken plan ↔ ∃ a ∈ r.attempts, a.position = k
  /-- Inside the spans of the targets stands the outline of each attempt, once and in order. -/
  attempts : r.entries.filter (·.isIn "Executing request") =
    r.attempts.flatMap (Attempt.outline terms.maxRetries)
  /-- An attempt is made at a target of the plan, and its number is the number of retries that is
  told of it. -/
  placed : ∀ i (a : Attempt τ ρ), r.attempts[i]? = some a →
    plan.item a.position = some a.target ∧ a.retryCount = i
  /-- Each attempt succeeds or fails, unless the caller stops waiting. -/
  ended : ∀ a ∈ r.attempts, a.outcome = .pending → r.result = .unfinished
  /-- The decision that is told of a failure is the answer of the policy. -/
  decided : ∀ i a e v, r.attempts[i]? = some a → a.outcome = .failed e v →
    v = terms.policy.decide (store.after (r.attempts.take (i + 1))).flags terms.query a.consistency
      e i
  /-- The texts of levels and decisions tell which ones they are. -/
  readable : (∀ c c' : Consistency, c.title = c'.title → c = c') ∧
    ∀ d d' : Decision, d.text = d'.text → d = d'
  /-- The limit is reached once at most, and after the last attempt. -/
  limited : r.entries.filter (·.tells limitMessage) =
    (r.attempts.getLast?.filter fun a => a.suppressed terms.maxRetries).toList.map fun a =>
      .event .debug (some limitMessage)
        [⟨"retry_count", toString a.retryCount⟩, ⟨"max_retries", toString terms.maxRetries⟩]
        (some "Executing request")
  /-- The span of the request gets the number of retries and then the outcome, each once. -/
  records : r.entries.filter Entry.isRecord =
    (r.result.retries? r.attempts.length).toList.map
      (fun n => .record "Request" ⟨"retries", toString n⟩) ++ r.result.records
  /-- A failure of the request is told once. -/
  closing : r.entries.filter (·.tells failureMessage) = r.result.farewell
  /-- No attempt is made only where the plan is empty. -/
  empty : r.attempts = [] ↔ r.result = .failed .emptyPlan

/-- **The log of every request can be counted on.** -/
theorem execute_chronicled (x : Executor) (s : Statement) (plan : Plan τ) (cluster : Cluster σ τ ρ)
    (patience : Option Duration) (store : Store) (state : σ) :
    Chronicled (x.terms s store) plan cluster store
      (x.execute s plan cluster patience store state) := by
  have hlaw := x.attempts_lawful s plan cluster patience store state
  constructor
  case visible => exact List.filter_eq_self.2 fun e _ => e.isVisible_trace
  case whole => exact x.execute_entries s plan cluster patience store state
  case request =>
    rw [Run.filter_entries Event.begins_request,
      x.filter_events_of_not_attempt s plan cluster patience store state (fun _ => rfl)
        fun _ h => Event.isOfAttempt_eq_false (.inl h)]
    cases (x.execute s plan cluster patience store state).result with
    | failed e => cases e <;> rfl
    | _ => rfl
  case targets =>
    rw [Run.filter_entries Event.begins_target, Event.map_entry_taken,
      x.execute_taken s plan cluster patience store state]
  case visited => exact x.lt_taken_iff s plan cluster patience store state
  case attempts =>
    rw [Run.filter_entries Event.isIn_target,
      x.filter_events_of_attempt s plan cluster patience store state
        fun _ h => Event.isOfAttempt_of_isInTarget h, List.map_flatMap]
    congr 1
    funext a
    rw [← Attempt.filter_map_entry_account, List.filter_map]
    congr 1
    exact List.filter_congr fun ev _ => (Event.isIn_target ev).symm
  case placed => exact hlaw.placed
  case ended =>
    intro a ha hp
    obtain ⟨i, hi⟩ := List.mem_iff_getElem?.1 ha
    exact x.of_pending s plan cluster patience store state hi hp
  case decided => exact hlaw.decided
  case readable =>
    exact ⟨fun _ _ => Consistency.title_injective, fun _ _ => Decision.text_injective⟩
  case limited =>
    rw [Run.filter_entries Event.tells_limitMessage,
      x.filter_events_of_attempt s plan cluster patience store state
        fun _ h => Event.isOfAttempt_of_isInTarget (Event.isInTarget_of_isLimited h)]
    simp only [Attempt.filter_account_isLimited,
      hlaw.flatMap_suppressed fun a => .limited a.retryCount (x.terms s store).maxRetries,
      List.map_map]
    rfl
  case records =>
    rw [Run.filter_entries Event.isRecord_entry,
      x.filter_events_of_not_attempt s plan cluster patience store state (fun _ => rfl)
        fun _ h => Event.isOfAttempt_eq_false (.inr (.inl h))]
    cases (x.execute s plan cluster patience store state).result with
    | failed e => cases e <;> rfl
    | _ => rfl
  case closing =>
    rw [Run.filter_entries Event.tells_failureMessage,
      x.filter_events_of_not_attempt s plan cluster patience store state (fun _ => rfl)
        fun _ h => Event.isOfAttempt_eq_false (.inr (.inr h))]
    cases (x.execute s plan cluster patience store state).result with
    | failed e => cases e <;> rfl
    | _ => rfl
  case empty => exact x.attempts_eq_nil_iff s plan cluster patience store state

end Reattempt
