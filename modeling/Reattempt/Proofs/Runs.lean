import Reattempt.Run.Execute

/-!
# Runs step by step

`runAt` counts the retries that are left. Here a run is described without that
count: what an attempt may lead to, how it may end the run, and a run as a chain
of such steps.

* `Leads`: one attempt leads to the next one.
* `Ends`: one attempt is the last one.
* `Runs`: a run as a chain of attempts, of any length.
* `runs_runAt`, `Runs.eq_runAt`: `runAt` makes such a run, and there is no other.
* `Executor.execute_cases`, `Executor.length_attempts`: the runs of an executor.
-/

namespace Reattempt

variable {σ τ ρ : Type}

theorem Outcome.course_eq_over_iff {o : Outcome ρ} {result : Result ρ} :
    o.course = .over result ↔
      (∃ response, o = .answered response ∧ result = .completed response) ∨
      (o = .pending ∧ result = .unfinished) ∨
      (∃ e v, o = .failed e v ∧ v.decision = .ignore ∧ result = .ignored) ∨
      (∃ e v, o = .failed e v ∧ v.decision = .rethrow ∧ result = .failed (.ofAttempt e)) := by
  constructor
  · intro h
    cases o with
    | answered response => cases h; exact .inl ⟨response, rfl, rfl⟩
    | pending => cases h; exact .inr (.inl ⟨rfl, rfl⟩)
    | failed e v =>
      cases hd : v.decision with
      | ignore =>
        simp only [course, hd] at h
        cases h
        exact .inr (.inr (.inl ⟨e, v, rfl, hd, rfl⟩))
      | rethrow =>
        simp only [course, hd] at h
        cases h
        exact .inr (.inr (.inr ⟨e, v, rfl, hd, rfl⟩))
      | retrySameTarget level => simp [course, hd] at h
      | retryNextTarget level => simp [course, hd] at h
  · rintro (⟨response, rfl, rfl⟩ | ⟨rfl, rfl⟩ | ⟨e, v, rfl, hd, rfl⟩ | ⟨e, v, rfl, hd, rfl⟩)
    · rfl
    · rfl
    · simp only [course, hd]
    · simp only [course, hd]

theorem Outcome.of_course_again {o : Outcome ρ} {e : AttemptError} {level : Option Consistency}
    (h : o.course = .again e level) :
    ∃ v, o = .failed e v ∧ v.decision = .retrySameTarget level := by
  cases o with
  | answered response => cases h
  | pending => cases h
  | failed e' v => cases hd : v.decision <;> simp_all [course]

theorem Outcome.of_course_onward {o : Outcome ρ} {e : AttemptError} {level : Option Consistency}
    (h : o.course = .onward e level) :
    ∃ v, o = .failed e v ∧ v.decision = .retryNextTarget level := by
  cases o with
  | answered response => cases h
  | pending => cases h
  | failed e' v => cases hd : v.decision <;> simp_all [course]

section Relations

variable (ctx : Context) (plan : Plan τ) (cluster : Cluster σ τ ρ)

/-- **One attempt leads to the next**: the events between them, and where the next one is made. -/
inductive Leads (target : τ) (cur : Cursor σ) : List Event → τ → Cursor σ → Prop where
  /-- The policy asks for another attempt at the same target. -/
  | again {e : AttemptError} {v : Verdict} {level : Option Consistency}
      (fails : (cur.attempt ctx cluster target).record.outcome = .failed e v)
      (asks : v.decision = .retrySameTarget level)
      (allowed : cur.retryCount < ctx.terms.maxRetries) :
      Leads target cur [] target ((cur.attempt ctx cluster target).cursor.retry level)
  /-- The policy asks for an attempt at the next target, and there is one. -/
  | onward {e : AttemptError} {v : Verdict} {level : Option Consistency} {next : τ}
      (fails : (cur.attempt ctx cluster target).record.outcome = .failed e v)
      (asks : v.decision = .retryNextTarget level)
      (allowed : cur.retryCount < ctx.terms.maxRetries)
      (item : plan.item (cur.position + 1) = some next) :
      Leads target cur [.taken (cluster.address next)] next
        (((cur.attempt ctx cluster target).cursor.retry level).leave (cluster.address target) e)

/-- **One attempt is the last of its run**: the run that consists of it alone. -/
inductive Ends (target : τ) (cur : Cursor σ) : Run σ τ ρ → Prop where
  /-- The outcome itself settles the request. -/
  | settled {result : Result ρ}
      (settles : (cur.attempt ctx cluster target).record.outcome.course = .over result) :
      Ends target cur ((Run.ended (cur.attempt ctx cluster target).cursor result).after
        (cur.attempt ctx cluster target).record [])
  /-- The policy asks for a retry that the limit forbids. -/
  | limited {e : AttemptError} {v : Verdict}
      (fails : (cur.attempt ctx cluster target).record.outcome = .failed e v)
      (asks : v.decision.isRetry = true)
      (full : ctx.terms.maxRetries ≤ cur.retryCount) :
      Ends target cur (Run.limited ctx (cur.attempt ctx cluster target) e)
  /-- The policy asks for an attempt at the next target, but there is none. -/
  | exhausted {e : AttemptError} {v : Verdict} {level : Option Consistency} {last : Cursor σ}
      (fails : (cur.attempt ctx cluster target).record.outcome = .failed e v)
      (asks : v.decision = .retryNextTarget level)
      (allowed : cur.retryCount < ctx.terms.maxRetries)
      (item : plan.item (cur.position + 1) = none)
      (stands : last =
        ((cur.attempt ctx cluster target).cursor.retry level).leave (cluster.address target) e) :
      Ends target cur ((Run.ended last (.failed (.ofExhausted last.errors))).after
        (cur.attempt ctx cluster target).record [])

/-- **A run from a target on**, as long as its attempts lead to further ones. -/
inductive Runs : τ → Cursor σ → Run σ τ ρ → Prop where
  | stop {target : τ} {cur : Cursor σ} {r : Run σ τ ρ}
      (ends : Ends ctx plan cluster target cur r) : Runs target cur r
  | go {target next : τ} {cur cur' : Cursor σ} {more : List Event} {r : Run σ τ ρ}
      (leads : Leads ctx plan cluster target cur more next cur') (rest : Runs next cur' r) :
      Runs target cur (r.after (cur.attempt ctx cluster target).record more)

end Relations

variable {ctx : Context} {plan : Plan τ} {cluster : Cluster σ τ ρ} {target : τ} {cur : Cursor σ}

/-- **The loop ends**, with the run that `runAt` makes. -/
theorem runs_runAt (left : Nat) (hleft : left = ctx.terms.maxRetries - cur.retryCount) :
    Runs ctx plan cluster target cur (runAt ctx plan cluster left target cur) := by
  fun_induction runAt with
  | case1 left target cur step result settles => exact .stop (.settled settles)
  -- no retries are left, so the limit forbids the one that is asked for
  | case2 target cur step e level asks =>
    obtain ⟨v, fails, hd⟩ := Outcome.of_course_again asks
    exact .stop (.limited fails (by rw [hd]; rfl) (by omega))
  | case3 target cur step e level asks =>
    obtain ⟨v, fails, hd⟩ := Outcome.of_course_onward asks
    exact .stop (.limited fails (by rw [hd]; rfl) (by omega))
  -- one retry is used up, so the count of those left stays right
  | case4 target cur step left e level asks ih =>
    obtain ⟨v, fails, hd⟩ := Outcome.of_course_again asks
    refine .go (.again fails hd (by omega)) (ih ?_)
    show left = ctx.terms.maxRetries - (cur.retryCount + 1)
    omega
  | case5 target cur step left e level asks next target' item ih =>
    obtain ⟨v, fails, hd⟩ := Outcome.of_course_onward asks
    refine .go (.onward fails hd (by omega) item) (ih ?_)
    show left = ctx.terms.maxRetries - (cur.retryCount + 1)
    omega
  | case6 target cur step left e level asks next item =>
    obtain ⟨v, fails, hd⟩ := Outcome.of_course_onward asks
    exact .stop (.exhausted fails hd (by omega) item rfl)

/-- An attempt that leads to another one is not the last. -/
theorem Leads.not_ends {more : List Event} {next : τ} {cur' : Cursor σ}
    (h : Leads ctx plan cluster target cur more next cur') (r : Run σ τ ρ) :
    ¬ Ends ctx plan cluster target cur r := by
  intro hr
  cases h with
  | again fails asks allowed =>
    cases hr with
    | settled settles => rw [fails] at settles; simp [Outcome.course, asks] at settles
    | limited _ _ full => omega
    | exhausted fails' asks' =>
      rw [fails] at fails'; cases fails'; rw [asks] at asks'; cases asks'
  | onward fails asks allowed item =>
    cases hr with
    | settled settles => rw [fails] at settles; simp [Outcome.course, asks] at settles
    | limited _ _ full => omega
    | exhausted _ _ _ none => rw [item] at none; cases none

theorem Leads.allowed {more : List Event} {next : τ} {cur' : Cursor σ}
    (h : Leads ctx plan cluster target cur more next cur') :
    cur.retryCount < ctx.terms.maxRetries := by
  cases h <;> assumption

theorem Leads.retryCount_eq {more : List Event} {next : τ} {cur' : Cursor σ}
    (h : Leads ctx plan cluster target cur more next cur') :
    cur'.retryCount = cur.retryCount + 1 := by
  cases h <;> rfl

/-- **There is no other run**: a chain of attempts that ends is the one that `runAt` makes. -/
theorem Runs.eq_runAt {r : Run σ τ ρ} (h : Runs ctx plan cluster target cur r) :
    r = runAt ctx plan cluster (ctx.terms.maxRetries - cur.retryCount) target cur := by
  induction h with
  | stop ends =>
    cases ends with
    | settled settles => rw [runAt.eq_def]; simp only [settles]
    | @limited e v fails asks full =>
      rw [Nat.sub_eq_zero_of_le full, runAt.eq_def]
      cases hd : v.decision <;> simp_all [Outcome.course, Decision.isRetry]
    | @exhausted e v level last fails asks allowed item stands =>
      obtain ⟨left, hleft⟩ := Nat.exists_eq_add_of_lt allowed
      rw [show ctx.terms.maxRetries - _ = left + 1 by omega, runAt.eq_def]
      subst stands
      simp [fails, Outcome.course, asks, item]
  | @go target next cur cur' more r leads rest ih =>
    -- the limit allows a retry, so `runAt` has at least one left and takes the same branch
    obtain ⟨left, hleft⟩ := Nat.exists_eq_add_of_lt leads.allowed
    rw [show ctx.terms.maxRetries - _ = left + 1 by omega, runAt.eq_def]
    have hl : ctx.terms.maxRetries - cur'.retryCount = left := by
      rw [leads.retryCount_eq]; omega
    rw [ih, hl]
    cases leads with
    | again fails asks => simp [fails, Outcome.course, asks]
    | onward fails asks _ item => simp [fails, Outcome.course, asks, item]

theorem Runs.unique {r r' : Run σ τ ρ} (h : Runs ctx plan cluster target cur r)
    (h' : Runs ctx plan cluster target cur r') : r = r' :=
  h.eq_runAt.trans h'.eq_runAt.symm

/-- From a cursor on, the next target is taken, and the rest is a run from there. -/
theorem runFrom_of_item (ctx : Context) (cluster : Cluster σ τ ρ)
    (item : plan.item cur.position = some target) :
    ∃ r, Runs ctx plan cluster target cur r ∧ runFrom ctx plan cluster cur =
      { r with events := .taken (cluster.address target) :: r.events } := by
  refine ⟨_, runs_runAt _ rfl, ?_⟩
  simp only [runFrom, item]

theorem runFrom_of_none (item : plan.item cur.position = none) :
    runFrom ctx plan cluster cur = Run.ended cur (.failed (.ofExhausted cur.errors)) := by
  simp only [runFrom, item]

namespace Executor

/-- The terms of a request, as the store is when it begins. -/
def terms (x : Executor) (s : Statement) (store : Store) : Terms :=
  s.terms (store.profile (s.chosen x.handle))

/-- An execution is a run from the beginning of its plan, with the events around it. -/
theorem execute_eq (x : Executor) (s : Statement) (plan : Plan τ) (cluster : Cluster σ τ ρ)
    (patience : Option Duration) (store : Store) (state : σ) :
    x.execute s plan cluster patience store state =
      let r := runFrom ⟨x.terms s store, patience⟩ plan cluster
        (.start (x.terms s store).consistency store state)
      { r with events := .opened s.query.text (x.terms s store).consistency ::
          r.events ++ r.result.events } := rfl

/-- **An execution is a run from the first target of its plan on**, if there is one. -/
theorem execute_cases (x : Executor) (s : Statement) (plan : Plan τ) (cluster : Cluster σ τ ρ)
    (patience : Option Duration) (store : Store) (state : σ) :
    (plan.item 0 = none ∧
      x.execute s plan cluster patience store state =
        { Run.ended (.start (x.terms s store).consistency store state) (.failed .emptyPlan) with
          events := [.opened s.query.text (x.terms s store).consistency, .retried 0, .marked,
            .reported .emptyPlan, .finished] }) ∨
    ∃ target run, plan.item 0 = some target ∧
      Runs ⟨x.terms s store, patience⟩ plan cluster target
        (.start (x.terms s store).consistency store state) run ∧
      x.execute s plan cluster patience store state =
        { run with
          events := .opened s.query.text (x.terms s store).consistency ::
            .taken (cluster.address target) :: run.events ++ run.result.events } := by
  have hrun : x.execute s plan cluster patience store state =
      let r := runFrom ⟨x.terms s store, patience⟩ plan cluster
        (.start (x.terms s store).consistency store state)
      { r with events := .opened s.query.text (x.terms s store).consistency ::
          r.events ++ r.result.events } := rfl
  rw [hrun]
  cases item : plan.item 0 with
  | none =>
    refine .inl ⟨rfl, ?_⟩
    simp only [runFrom, show (Cursor.start (x.terms s store).consistency store state).position = 0
      from rfl, item]
    rfl
  | some target =>
    refine .inr ⟨target, _, rfl, runs_runAt _ rfl, ?_⟩
    simp only [runFrom, show (Cursor.start (x.terms s store).consistency store state).position = 0
      from rfl, item]

/-- The limit on retries bounds every execution. -/
theorem length_attempts (x : Executor) (s : Statement) (plan : Plan τ) (cluster : Cluster σ τ ρ)
    (patience : Option Duration) (store : Store) (state : σ) :
    (x.execute s plan cluster patience store state).attempts.length ≤
      (x.terms s store).maxRetries + 1 := by
  rcases x.execute_cases s plan cluster patience store state with
    ⟨-, hr⟩ | ⟨target, run, -, h, hr⟩
  · rw [hr]
    exact Nat.zero_le _
  · rw [hr]
    show run.attempts.length ≤ _
    rw [h.eq_runAt]
    exact length_attempts_runAt ..

end Executor

end Reattempt
