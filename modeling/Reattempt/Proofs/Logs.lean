import Reattempt.Proofs.History

/-!
# The log of a run

A run tells the events of its attempts one after the other. Between two attempts
it tells the target that is taken next, if any; after the last one it tells
whether the limit forbids a retry, and how many retries there were.

* `Attempt.suppressed`: the limit forbids the retry that was asked for.
* `Ends.events`: what is told after the last attempt.
* `Runs.filterMap_events`: what is told of the attempts alone.
* `Runs.taken`: each target that is taken from the plan is told once.
-/

namespace Reattempt

variable {σ τ ρ : Type}

/-- Whether the policy asks for a retry after an attempt and the limit forbids it. -/
def Attempt.suppressed (limit : Nat) (a : Attempt τ ρ) : Bool :=
  a.outcome.verdict?.any (·.decision.isRetry) && decide (limit ≤ a.retryCount)

theorem Attempt.suppressed_iff {limit : Nat} {a : Attempt τ ρ} :
    a.suppressed limit = true ↔
      ∃ e v, a.outcome = .failed e v ∧ v.decision.isRetry = true ∧ limit ≤ a.retryCount := by
  unfold suppressed
  cases a.outcome with
  | answered response => simp [Outcome.verdict?]
  | pending => simp [Outcome.verdict?]
  | failed e v => simp [Outcome.verdict?, and_assoc]

/-- The address that an event tells of a target taken from the plan. -/
def Event.taken? : Event → Option Address
  | taken address => some address
  | _ => none

/-- The address of the target at a position of a plan, if the plan reaches it. -/
def Cluster.addressAt (cluster : Cluster σ τ ρ) (plan : Plan τ) (position : Nat) : Option Address :=
  (plan.item position).map cluster.address

theorem Attempt.taken?_eq_none {a : Attempt τ ρ} {ev : Event} (h : ev ∈ a.events) :
    ev.taken? = none := by
  unfold events at h
  cases ho : a.outcome with
  | answered response =>
    rw [ho] at h
    simp only [List.mem_cons, List.not_mem_nil, or_false] at h
    rcases h with rfl | rfl <;> rfl
  | pending =>
    rw [ho] at h
    rw [List.mem_singleton.1 h]; rfl
  | failed e v =>
    rw [ho] at h
    simp only [List.mem_cons, List.mem_append, List.mem_map, List.not_mem_nil, or_false] at h
    rcases h with rfl | (rfl | ⟨remark, -, rfl⟩) | rfl <;> rfl

theorem Run.mem_events_ended {cur : Cursor σ} {result : Result ρ} {ev : Event}
    (h : ev ∈ (Run.ended cur result : Run σ τ ρ).events) : ev = .retried cur.retryCount := by
  cases result with
  | unfinished => cases h
  | _ => exact List.mem_singleton.1 h

variable {ctx : Context} {plan : Plan τ} {cluster : Cluster σ τ ρ} {target : τ} {cur : Cursor σ}
  {r : Run σ τ ρ}

/-- **What is told after the last attempt**: that the limit forbids a retry, and the number of
retries. -/
theorem Ends.events (h : Ends ctx plan cluster target cur r) :
    r.events = (cur.attempt ctx cluster target).record.events ++
      (if (cur.attempt ctx cluster target).record.suppressed ctx.terms.maxRetries then
        [.limited cur.retryCount ctx.terms.maxRetries] else []) ++
      (Run.ended r.last r.result : Run σ τ ρ).events := by
  cases h with
  | settled settles =>
    rw [if_neg]
    · rfl
    · intro hs
      obtain ⟨e, v, fails, asks, -⟩ := Attempt.suppressed_iff.1 hs
      rw [fails] at settles
      cases hv : v.decision <;> simp_all [Outcome.course, Decision.isRetry]
  | limited fails asks full =>
    rw [if_pos (Attempt.suppressed_iff.2 ⟨_, _, fails, asks, full⟩)]
    rfl
  | exhausted fails asks allowed item stands =>
    rw [if_neg]
    · rfl
    · intro hs
      obtain ⟨-, -, -, -, full⟩ := Attempt.suppressed_iff.1 hs
      exact absurd allowed (Nat.not_lt.2 full)

/-- **What is told of the attempts alone**, when nothing is read off the events between them. -/
theorem Runs.filterMap_events {α : Type} {f : Event → Option α}
    (htaken : ∀ address, f (.taken address) = none)
    (hlimited : ∀ n limit, f (.limited n limit) = none)
    (hretried : ∀ n, f (.retried n) = none) (h : Runs ctx plan cluster target cur r) :
    r.events.filterMap f = r.attempts.flatMap fun a => a.events.filterMap f := by
  induction h with
  | @stop target cur r ends =>
    have hended : (Run.ended r.last r.result : Run σ τ ρ).events.filterMap f = [] :=
      List.filterMap_eq_nil_iff.2 fun ev hev => by rw [Run.mem_events_ended hev, hretried]
    rw [ends.events, ends.attempts, List.filterMap_append, List.filterMap_append, hended]
    split
    · simp [hlimited]
    · simp
  | @go target next cur cur' more r leads rest ih =>
    -- between two attempts at most a target is told
    have hmore : more.filterMap f = [] := by cases leads <;> simp [htaken]
    rw [Run.events_after, Run.attempts_after, List.filterMap_append, List.filterMap_append, hmore,
      ih, List.append_nil, List.flatMap_cons]

/-- A run that ends takes no target from the plan after its last attempt. -/
theorem Ends.taken (h : Ends ctx plan cluster target cur r)
    (item : plan.item cur.position = some target) :
    r.taken plan = cur.position + 1 ∧ r.events.filterMap Event.taken? = [] := by
  constructor
  · cases h with
    | settled settles => simp [Run.taken, item]
    | limited fails asks full => simp [Run.limited, Run.taken, item]
    | exhausted fails asks allowed item' stands => subst stands; simp [Run.taken, item']
  · refine List.filterMap_eq_nil_iff.2 fun ev hev => ?_
    rw [h.events, List.mem_append, List.mem_append] at hev
    rcases hev with (hev | hev) | hev
    · exact Attempt.taken?_eq_none hev
    · split at hev
      · rw [List.mem_singleton.1 hev]; rfl
      · cases hev
    · rw [Run.mem_events_ended hev]; rfl

/-- **Each target that is taken from the plan is told once**, in order. The first one is taken
before the run. -/
theorem Runs.taken (h : Runs ctx plan cluster target cur r)
    (item : plan.item cur.position = some target) :
    ∃ n, r.taken plan = cur.position + n + 1 ∧
      cluster.address target :: r.events.filterMap Event.taken? =
        (List.range' cur.position (n + 1)).filterMap (cluster.addressAt plan) := by
  induction h with
  | stop ends =>
    obtain ⟨htaken, hevents⟩ := ends.taken item
    exact ⟨0, htaken, by simp [hevents, Cluster.addressAt, item]⟩
  | @go target next cur cur' more r leads rest ih =>
    obtain ⟨n, htaken, hevents⟩ := ih (leads.item item)
    have hattempt : (cur.attempt ctx cluster target).record.events.filterMap Event.taken? = [] :=
      List.filterMap_eq_nil_iff.2 fun _ => Attempt.taken?_eq_none
    rw [Run.events_after, List.filterMap_append, List.filterMap_append, hattempt, List.nil_append]
    cases leads with
    -- another attempt at the same target takes none
    | again => exact ⟨n, htaken, hevents⟩
    | onward fails asks allowed item' =>
      have hnext : r.taken plan = cur.position + 1 + n + 1 := htaken
      refine ⟨n + 1, ?_, ?_⟩
      · show r.taken plan = _
        omega
      · have hfirst : cluster.addressAt plan cur.position = some (cluster.address target) := by
          rw [Cluster.addressAt, item]; rfl
        rw [List.range'_succ, List.filterMap_cons_some hfirst]
        exact congrArg _ hevents

end Reattempt
