import Reattempt.Proofs.Ending
import Reattempt.Proofs.Logs
import Reattempt.Proofs.Waiting

/-!
# Bounds

Neither the plan nor the policy need ever come to an end. What bounds a run is
the limit on retries alone: each attempt that leads to another one uses up one of
them. And the plan is read on demand: a run asks for a next target only when it
has left the one before.

* `wellFounded_leads`: attempts cannot lead to further ones forever.
* `Runs.retryCount_le`, `Stands.position_add_le`: what the count bounds.
* `Runs.congr_plan`: targets that are not asked for have no influence.
* `Runs.bounded`: the bounds of a run, of which `Bounded` is the list.
* `Runs.ne_unfinished`: when a run comes to an end.
* `execute_bounded`: the bounds of every execution.
-/

namespace Reattempt

variable {σ τ ρ : Type}

/-- **Attempts cannot lead to further ones forever**: each uses up one of the retries that are
left. -/
theorem wellFounded_leads (ctx : Context) (plan : Plan τ) (cluster : Cluster σ τ ρ) :
    WellFounded fun s' s : τ × Cursor σ =>
      ∃ more, Leads ctx plan cluster s.1 s.2 more s'.1 s'.2 := by
  refine Subrelation.wf (r := InvImage (· < ·) fun s => ctx.terms.maxRetries - s.2.retryCount) ?_
    (InvImage.wf _ Nat.lt_wfRel.wf)
  rintro ⟨next, cur'⟩ ⟨target, cur⟩ ⟨more, leads⟩
  have hlt := leads.allowed
  have hcount := leads.retryCount_eq
  simp only [InvImage] at hlt hcount ⊢
  omega

/-- Leaving a target costs a retry. -/
theorem Stands.position_add_le {limit : Nat} {cluster : Cluster σ τ ρ} {cur c : Cursor σ}
    {as : List (Attempt τ ρ)} (h : Stands limit cluster cur as c) :
    c.position + cur.retryCount ≤ cur.position + c.retryCount := by
  have hle : as.countP (Attempt.leaves limit) ≤ as.countP fun a => (a.retry? limit).isSome := by
    refine List.countP_mono_left fun a _ ha => ?_
    obtain ⟨e, v, level, ho, hd, hl⟩ := Attempt.leaves_iff.1 ha
    rw [Attempt.retry?_eq_some_iff.2 ⟨e, v, ho, hd, rfl, hl⟩]
    rfl
  rw [h.position, h.retryCount]
  omega

section Runs

variable {ctx : Context} {plan : Plan τ} {cluster : Cluster σ τ ρ} {target : τ} {cur : Cursor σ}
  {r : Run σ τ ρ}

/-- The number of retries stays within the limit. -/
theorem Runs.retryCount_le (h : Runs ctx plan cluster target cur r)
    (hcur : cur.retryCount ≤ ctx.terms.maxRetries) : r.last.retryCount ≤ ctx.terms.maxRetries := by
  induction h with
  | stop ends =>
    cases ends with
    | settled settles => exact hcur
    | limited fails asks full => exact hcur
    | exhausted fails asks allowed item stands => subst stands; exact allowed
  | go leads rest ih =>
    refine ih ?_
    rw [leads.retryCount_eq]
    exact leads.allowed

/-- At each target that is taken from the plan an attempt is made. -/
theorem Runs.tried (h : Runs ctx plan cluster target cur r)
    (item : plan.item cur.position = some target) (hcur : cur.errors.length = cur.position)
    {k : Nat} (hk : cur.position ≤ k) (hk' : k < r.taken plan) :
    ∃ a ∈ r.attempts, a.position = k ∧ plan.item k = some a.target := by
  by_cases hlast : k < r.last.position
  -- the target was left, by the last attempt at it
  · obtain ⟨a, ha, hitem, -⟩ := h.lastAt item hcur hk hlast
    have hmem := List.mem_filter.1 (List.mem_of_getLast? ha)
    exact ⟨a, hmem.1, of_decide_eq_true hmem.2, hitem⟩
  -- the run ends at this target, so its last attempt is made there
  · obtain ⟨a, ha, hitem, hpos, hs⟩ := h.settles item
    cases hnext : plan.item r.last.position with
    | none => simp only [Run.taken, hnext, Option.toList_none, List.length_nil] at hk'; omega
    | some t =>
      simp only [Run.taken, hnext, Option.toList_some, List.length_singleton] at hk'
      have hstays : a.leaves ctx.terms.maxRetries = false := by
        refine Bool.eq_false_iff.2 fun hleaves => ?_
        rw [if_pos hleaves] at hpos
        rw [hpos, (hs.of_leaves hleaves).1] at hnext
        cases hnext
      rw [hstays, if_neg Bool.false_ne_true, Nat.add_zero] at hpos
      obtain rfl : a.position = k := by omega
      exact ⟨a, List.mem_of_getLast? ha, rfl, hitem⟩

/-- **Targets that are not asked for have no influence.** -/
theorem Runs.congr_plan {plan' : Plan τ} (h : Runs ctx plan cluster target cur r)
    (agree : ∀ k ≤ r.last.position, plan'.item k = plan.item k) :
    Runs ctx plan' cluster target cur r := by
  induction h with
  | stop ends =>
    refine .stop ?_
    cases ends with
    | settled settles => exact .settled settles
    | limited fails asks full => exact .limited fails asks full
    | exhausted fails asks allowed item stands =>
      refine .exhausted fails asks allowed ?_ stands
      rw [agree _ (by subst stands; exact Nat.le_refl _), item]
  | go leads rest ih =>
    refine .go ?_ (ih agree)
    have hle := rest.stands.position
    cases leads with
    | again fails asks allowed => exact .again fails asks allowed
    | onward fails asks allowed item =>
      refine .onward fails asks allowed ?_
      rw [agree _ (by rw [Run.last_after, hle]; exact Nat.le_add_right ..), item]

/-- **The bounds of a run** under a limit on retries. -/
structure Bounded (limit : Nat) (plan : Plan τ) (r : Run σ τ ρ) : Prop where
  attempts : r.attempts.length ≤ limit + 1
  retryCount : (∀ a ∈ r.attempts, a.retryCount ≤ limit) ∧ r.last.retryCount ≤ limit
  /-- Each retry adds one to the count, and 32 bits are enough for it. -/
  counter : ∀ a ∈ r.attempts, (a.retry? limit).isSome →
    (UInt32.ofNat a.retryCount + 1).toNat = a.retryCount + 1
  /-- The plan is read past a target only when the policy asked for the next one after the last
  attempt at it, and the limit allowed that. -/
  left : ∀ k < r.last.position, ∃ a e v level, lastAt r.attempts k = some a ∧
    a.outcome = .failed e v ∧ v.decision = .retryNextTarget level ∧ a.retryCount < limit
  /-- At each target that is taken from the plan at least one attempt is made. -/
  tried : ∀ k < r.taken plan, ∃ a ∈ r.attempts, a.position = k ∧ plan.item k = some a.target
  taken : r.taken plan ≤ limit + 1
  /-- A plan without end does not run out. -/
  endless : (∀ k, (plan.item k).isSome) → r.result ≠ .failed .emptyPlan ∧
    ∀ errors, r.result ≠ .failed (.noHostAvailable errors)

/-- A run from the beginning, with a limit that fits 32 bits. -/
theorem Runs.bounded {level : Consistency} {store : Store} {state : σ}
    (h : Runs ctx plan cluster target (.start level store state) r)
    (item : plan.item 0 = some target) (hlimit : ctx.terms.maxRetries < UInt32.size) :
    Bounded ctx.terms.maxRetries plan r := by
  have hcount : r.last.retryCount ≤ ctx.terms.maxRetries := h.retryCount_le (Nat.zero_le _)
  -- each target that was left cost one of the retries
  have hposition : r.last.position ≤ r.last.retryCount := by
    simpa [Cursor.start] using h.stands.position_add_le
  have hlength : r.attempts.length ≤ ctx.terms.maxRetries + 1 := by
    rw [h.eq_runAt]
    exact length_attempts_runAt ..
  have hcounts : ∀ a ∈ r.attempts, a.retryCount ≤ ctx.terms.maxRetries := by
    intro a ha
    obtain ⟨i, hi⟩ := List.mem_iff_getElem?.1 ha
    obtain ⟨t, c, -, hn, -, rfl, -⟩ := h.getElem?_attempts item hi
    have hlt := (List.getElem?_eq_some_iff.1 hi).1
    show c.retryCount ≤ _
    rw [hn]
    simp only [Cursor.start]
    omega
  constructor
  case attempts => exact hlength
  case retryCount => exact ⟨hcounts, hcount⟩
  case counter =>
    intro a _ hr
    obtain ⟨d, hr⟩ := Option.isSome_iff_exists.1 hr
    obtain ⟨-, -, -, -, -, hlt⟩ := Attempt.retry?_eq_some_iff.1 hr
    simp only [UInt32.size] at hlimit
    simp only [UInt32.toNat_add, UInt32.toNat_ofNat', UInt32.toNat_one]
    omega
  case left =>
    intro k hk
    obtain ⟨a, ha, -, hleaves, -⟩ := h.lastAt item rfl (Nat.zero_le k) hk
    obtain ⟨e, v, level, ho, hd, hl⟩ := Attempt.leaves_iff.1 hleaves
    exact ⟨a, e, v, level, ha, ho, hd, hl⟩
  case tried => exact fun k hk => h.tried item rfl (Nat.zero_le k) hk
  case taken =>
    have hle : (plan.item r.last.position).toList.length ≤ 1 := by
      cases plan.item r.last.position <;> simp
    unfold Run.taken
    omega
  case endless =>
    intro hplan
    -- the last attempt is followed by another target, so the plan is not what ended the run
    obtain ⟨a, -, -, -, hs⟩ := h.settles item
    refine ⟨hs.ne_emptyPlan, fun errors hr => ?_⟩
    have hnext := hplan (a.position + 1)
    rw [(hs.of_noHostAvailable hr).2.1] at hnext
    cases hnext

/-- **A run for which the caller waits comes to an end**, if each of its attempts has an answer or a
limit in time. -/
theorem Runs.ne_unfinished (h : Runs ctx plan cluster target cur r)
    (item : plan.item cur.position = some target) (hp : ctx.patience = none)
    (hends : ∀ i a, r.attempts[i]? = some a →
      ctx.terms.timeout.isSome ∨ (cluster.reply cur.state (r.attempts.take i) a).answer.isSome) :
    r.result ≠ .unfinished := by
  intro hr
  obtain ⟨a, ha, -, -, hs⟩ := h.settles item
  rw [List.getLast?_eq_getElem?] at ha
  -- the last attempt does not end, and it is not the caller who stops waiting for it
  have hpending : a.outcome = .pending := hs.of_unfinished hr
  rcases (h.timed ha).pending.1 hpending with ⟨hlimit, hanswer⟩ | ⟨p, hpatience, -⟩
  · rcases hends _ a ha with hsome | hsome
    · rw [hlimit] at hsome
      cases hsome
    · rw [hanswer] at hsome
      cases hsome
  · rw [hp] at hpatience
    cases hpatience

end Runs

namespace Executor

variable (x : Executor) (s : Statement) (plan : Plan τ) (cluster : Cluster σ τ ρ)
  (patience : Option Duration) (store : Store) (state : σ)

/-- The log of an execution tells the targets that are taken from the plan, in order. -/
theorem execute_taken :
    (x.execute s plan cluster patience store state).events.filterMap Event.taken? =
      (List.range ((x.execute s plan cluster patience store state).taken plan)).filterMap
        (cluster.addressAt plan) := by
  rcases x.execute_cases s plan cluster patience store state with
    ⟨item, hr⟩ | ⟨target, run, item, h, hr⟩
  · have htaken : (x.execute s plan cluster patience store state).taken plan = 0 := by
      rw [hr]
      simp [Run.taken, Run.ended, Cursor.start, item]
    rw [htaken, hr]
    rfl
  · obtain ⟨n, htaken, hevents⟩ := h.taken item
    have hn : (x.execute s plan cluster patience store state).taken plan = n + 1 := by
      rw [hr]
      exact htaken.trans (by simp [Cursor.start])
    have hresult : run.result.events.filterMap Event.taken? = [] := by
      cases run.result <;> rfl
    rw [hn, hr, List.range_eq_range', List.filterMap_append, hresult, List.append_nil]
    exact hevents

/-- **An execution depends on no target that it does not take.** -/
theorem execute_congr_plan {plan' : Plan τ}
    (agree : ∀ k ≤ (x.execute s plan cluster patience store state).last.position,
      plan'.item k = plan.item k) :
    x.execute s plan' cluster patience store state =
      x.execute s plan cluster patience store state := by
  have hfirst : plan'.item 0 = plan.item 0 := agree 0 (Nat.zero_le _)
  rcases x.execute_cases s plan cluster patience store state with
    ⟨item, hr⟩ | ⟨target, run, item, h, hr⟩
  · rcases x.execute_cases s plan' cluster patience store state with
      ⟨item', hr'⟩ | ⟨target', run', item', h', hr'⟩
    · rw [hr, hr']
    · rw [hfirst, item] at item'; cases item'
  · rcases x.execute_cases s plan' cluster patience store state with
      ⟨item', hr'⟩ | ⟨target', run', item', h', hr'⟩
    · rw [hfirst, item] at item'; cases item'
    · rw [hfirst, item] at item'; cases item'
      rw [hr] at agree
      obtain rfl : run' = run := h'.eq_runAt.trans (h.congr_plan agree).eq_runAt.symm
      rw [hr, hr']

/-- **A request for which the caller waits has a result**, if each attempt has a limit in time or an
answer. -/
theorem execute_ne_unfinished (hp : patience = none)
    (hends : ∀ i a, (x.execute s plan cluster patience store state).attempts[i]? = some a →
      (x.terms s store).timeout.isSome ∨
        (cluster.reply state ((x.execute s plan cluster patience store state).attempts.take i)
          a).answer.isSome) :
    (x.execute s plan cluster patience store state).result ≠ .unfinished := by
  rcases x.execute_cases s plan cluster patience store state with
    ⟨-, hr⟩ | ⟨target, run, item, h, hr⟩
  · rw [hr]
    nofun
  · rw [hr] at hends ⊢
    exact h.ne_unfinished item hp hends

end Executor

/-- **The bounds of every execution**, whatever the plan, the policy and the cluster do. The loop
cannot go on forever, and there is one way for it to end; the attempts, the retries and the targets
taken are bounded by the limit, which is any number of 32 bits. The log tells every target that is
taken, and no other target of the plan has any influence. If the caller waits, and each attempt has
an answer or a limit in time, then there is a result. -/
theorem execute_bounded (x : Executor) (s : Statement) (plan : Plan τ) (cluster : Cluster σ τ ρ)
    (patience : Option Duration) (store : Store) (state : σ) :
    let ctx : Context := ⟨x.terms s store, patience⟩
    let r := x.execute s plan cluster patience store state
    (WellFounded fun s' s : τ × Cursor σ => ∃ more, Leads ctx plan cluster s.1 s.2 more s'.1 s'.2) ∧
    (∀ target, plan.item 0 = some target → ∃ run,
      (∀ run', Runs ctx plan cluster target (.start ctx.terms.consistency store state) run' ↔
        run' = run) ∧
      r.attempts = run.attempts ∧ r.result = run.result ∧ r.last = run.last) ∧
    ctx.terms.maxRetries < UInt32.size ∧
    Bounded ctx.terms.maxRetries plan r ∧
    r.events.filterMap Event.taken? =
      (List.range (r.taken plan)).filterMap (cluster.addressAt plan) ∧
    (∀ plan' : Plan τ, (∀ k ≤ r.last.position, plan'.item k = plan.item k) →
      x.execute s plan' cluster patience store state = r) ∧
    (patience = none →
      (∀ i a, r.attempts[i]? = some a →
        ctx.terms.timeout.isSome ∨ (cluster.reply state (r.attempts.take i) a).answer.isSome) →
      r.result ≠ .unfinished) := by
  intro ctx r
  have hlimit : ctx.terms.maxRetries < UInt32.size := UInt32.toNat_lt_size _
  have htaken := x.execute_taken s plan cluster patience store state
  have hcongr : ∀ plan' : Plan τ, (∀ k ≤ r.last.position, plan'.item k = plan.item k) →
      x.execute s plan' cluster patience store state = r :=
    fun plan' => x.execute_congr_plan s plan cluster patience store state
  have hfinishes := x.execute_ne_unfinished s plan cluster patience store state
  rcases x.execute_cases s plan cluster patience store state with
    ⟨item, hr⟩ | ⟨target, run, item, h, hr⟩
  · have hbounded : Bounded ctx.terms.maxRetries plan r := by
      rw [show r = _ from hr]
      constructor
      case endless =>
        intro hplan
        have hfirst := hplan 0
        rw [item] at hfirst
        cases hfirst
      all_goals simp [Run.ended, Run.taken, Cursor.start, item]
    refine ⟨wellFounded_leads .., fun target htarget => ?_, hlimit, hbounded, htaken, hcongr,
      hfinishes⟩
    rw [item] at htarget
    cases htarget
  · have hbounded : Bounded ctx.terms.maxRetries plan r := by
      rw [show r = _ from hr]
      exact { h.bounded item hlimit with }
    have hattempts : r.attempts = run.attempts := by rw [show r = _ from hr]
    have hresult : r.result = run.result := by rw [show r = _ from hr]
    have hlast : r.last = run.last := by rw [show r = _ from hr]
    have hruns : ∀ run',
        Runs ctx plan cluster target (.start ctx.terms.consistency store state) run' ↔ run' = run :=
      fun run' => ⟨fun h' => h'.eq_runAt.trans h.eq_runAt.symm, fun heq => heq ▸ h⟩
    refine ⟨wellFounded_leads .., fun target' htarget => ?_, hlimit, hbounded, htaken, hcongr,
      hfinishes⟩
    obtain rfl : target = target' := Option.some.inj (item.symm.trans htarget)
    exact ⟨run, hruns, hattempts, hresult, hlast⟩

end Reattempt
