import Reattempt.Proofs.Alike
import Reattempt.Proofs.Bound

/-!
# One plan after another

A run over two plans, one after the other, is a run over the first one, and a
run over the second one if the first is used up. All that the second one is told
of the first is the level, the number of retries and the errors to be listed,
with the time, the store and the cluster as they are by then.

* `Runs.items`: how far a run gets in its plan.
* `Runs.last_of_exhausted`: where a run stands that has used up its plan.
* `Runs.followedBy`: a run that goes on with another plan.
* `runFrom_followedBy`, `execute_followedBy`: the runs over two plans.
-/

namespace Reattempt

variable {σ τ ρ : Type}

/-- The level after an attempt: the one that the decision names, or else the attempt's own. -/
def Attempt.levelAfter (a : Attempt τ ρ) : Consistency :=
  (a.outcome.verdict?.bind (·.decision.level?)).getD a.consistency

section Runs

variable {ctx : Context} {p q : Plan τ} {cluster : Cluster σ τ ρ} {target : τ} {cur : Cursor σ}
  {r : Run σ τ ρ} {l : List (Address × AttemptError)}

/-- A run whose last attempt uses up the plan. -/
theorem Ends.exhausted_of_some (h : Ends ctx p cluster target cur r)
    (hl : r.result.exhausted? = some l) :
    ∃ e v level, (cur.attempt ctx cluster target).record.outcome = .failed e v ∧
      v.decision = .retryNextTarget level ∧ cur.retryCount < ctx.terms.maxRetries ∧
      p.item (cur.position + 1) = none ∧
      r.last = ((cur.attempt ctx cluster target).cursor.retry level).leave
        (cluster.address target) e ∧
      l = r.last.errors ∧ r.result = .failed (.ofExhausted l) := by
  cases h with
  | settled settles =>
    rw [Run.result_after, Run.result_ended, Outcome.exhausted?_of_course settles] at hl
    cases hl
  | limited fails =>
    rw [Run.limited, Run.result_after, Run.result_ended, Result.exhausted?_ofAttempt] at hl
    cases hl
  | @exhausted e v level last fails asks allowed item stands =>
    rw [Run.result_after, Run.result_ended, Result.exhausted?_ofExhausted] at hl
    cases hl
    exact ⟨e, v, level, fails, asks, allowed, item, stands, rfl, rfl⟩

theorem Ends.position_of_none (h : Ends ctx p cluster target cur r)
    (hl : r.result.exhausted? = none) : r.last.position = cur.position := by
  cases h with
  | settled settles => rfl
  | limited fails asks full => rfl
  | exhausted fails asks allowed item stands =>
    rw [Run.result_after, Run.result_ended, Result.exhausted?_ofExhausted] at hl
    cases hl

theorem Leads.items {more : List Event} {next : τ} {cur₁ : Cursor σ}
    (h : Leads ctx p cluster target cur more next cur₁)
    (hitems : ∀ j ≤ cur.position, (p.item j).isSome) :
    ∀ j ≤ cur₁.position, (p.item j).isSome := by
  cases h with
  | again => exact hitems
  | onward fails asks allowed item =>
    intro j hj
    rcases Nat.le_succ_iff.1 hj with hj | rfl
    · exact hitems j hj
    · exact Option.isSome_iff_exists.2 ⟨_, item⟩

/-- What comes after a plan has no influence inside it. -/
theorem Leads.followedBy {more : List Event} {next : τ} {cur₁ : Cursor σ}
    (h : Leads ctx p cluster target cur more next cur₁)
    (hitems : ∀ j ≤ cur.position, (p.item j).isSome) (q : Plan τ) :
    Leads ctx (p.followedBy q) cluster target cur more next cur₁ := by
  have hitems₁ := h.items hitems
  cases h with
  | again fails asks allowed => exact .again fails asks allowed
  | onward fails asks allowed item =>
    have hitem := Plan.item_followedBy_of_lt (n := cur.position + 2)
      (fun j hj => hitems₁ j (Nat.le_of_lt_succ hj)) (Nat.lt_succ_self _) q
    exact .onward fails asks allowed (hitem.trans item)

/-- **How far a run gets in its plan**: to its end if it uses it up, and else to a target. -/
theorem Runs.items (h : Runs ctx p cluster target cur r)
    (hitems : ∀ j ≤ cur.position, (p.item j).isSome) :
    (∀ j < r.last.position, (p.item j).isSome) ∧
      (p.item r.last.position).isSome = r.result.exhausted?.isNone := by
  induction h with
  | @stop target cur r ends =>
    cases hl : r.result.exhausted? with
    | none =>
      rw [ends.position_of_none hl]
      exact ⟨fun j hj => hitems j (Nat.le_of_lt hj), hitems _ (Nat.le_refl _)⟩
    | some l =>
      obtain ⟨e, v, level, -, -, -, item, hlast, -⟩ := ends.exhausted_of_some hl
      have hposition : r.last.position = cur.position + 1 := by rw [hlast]; rfl
      rw [hposition, item]
      exact ⟨fun j hj => hitems j (Nat.le_of_lt_succ hj), rfl⟩
  | go leads rest ih => exact ih (leads.items hitems)

/-- **Where a run stands that has used up its plan**: each attempt was followed by a retry. -/
theorem Runs.last_of_exhausted (h : Runs ctx p cluster target cur r)
    (hl : r.result.exhausted? = some l) :
    l = r.last.errors ∧ r.result = .failed (.ofExhausted l) ∧
      r.last.retryCount = cur.retryCount + r.attempts.length ∧
      r.attempts.getLast?.map Attempt.levelAfter = some r.last.consistency := by
  induction h with
  | @stop target cur r ends =>
    obtain ⟨e, v, level, fails, asks, -, -, hlast, herrors, hresult⟩ := ends.exhausted_of_some hl
    refine ⟨herrors, hresult, ?_, ?_⟩
    · rw [hlast, ends.attempts]
      rfl
    · have hlevel : (cur.attempt ctx cluster target).record.levelAfter =
          level.getD cur.consistency := by
        simp [Attempt.levelAfter, fails, Outcome.verdict?, asks, Decision.level?]
      rw [hlast, ends.attempts, List.getLast?_singleton, Option.map_some, hlevel]
      rfl
  | @go target next cur cur₁ more r leads rest ih =>
    obtain ⟨herrors, hresult, hcount, hlevel⟩ := ih hl
    refine ⟨herrors, hresult, ?_, ?_⟩
    · have hcount₁ := leads.retryCount_eq
      simp only [Run.last_after, Run.attempts_after, List.length_cons]
      omega
    · obtain ⟨a, ha, hlevel⟩ := Option.map_eq_some_iff.1 hlevel
      rw [Run.attempts_after, List.getLast?_cons, ha]
      exact congrArg some hlevel

/-- **A run that goes on with another plan**, where it has used up its own. -/
theorem Runs.followedBy (h : Runs ctx p cluster target cur r)
    (hitems : ∀ j ≤ cur.position, (p.item j).isSome) (hl : r.result.exhausted? = some l)
    (q : Plan τ) :
    ∃ r', Runs ctx (p.followedBy q) cluster target cur r' ∧
      let rest := runFrom ctx (p.followedBy q) cluster r.last
      r'.attempts = r.attempts ++ rest.attempts ∧ r'.result = rest.result ∧
        r'.last = rest.last := by
  induction h with
  | @stop target cur r ends =>
    obtain ⟨e, v, level, fails, asks, allowed, hnone, hlast, hl', hresult⟩ :=
      ends.exhausted_of_some hl
    have hposition : r.last.position = cur.position + 1 := by
      rw [hlast]
      rfl
    cases item : (p.followedBy q).item (cur.position + 1) with
    | none =>
      rw [runFrom_of_none (hposition ▸ item)]
      refine ⟨_, .stop (.exhausted fails asks allowed item hlast), ?_, rfl, rfl⟩
      rw [ends.attempts]
      rfl
    | some next =>
      obtain ⟨rest, hrest, hrun⟩ := runFrom_of_item ctx cluster
        (show (p.followedBy q).item r.last.position = some next from hposition ▸ item)
      rw [hrun]
      rw [hlast] at hrest
      refine ⟨_, .go (.onward fails asks allowed item) hrest, ?_, rfl, rfl⟩
      rw [ends.attempts]
      rfl
  | go leads rest ih =>
    obtain ⟨r', hr', hattempts, hrest⟩ := ih (leads.items hitems) hl
    refine ⟨_, .go (leads.followedBy hitems q) hr', ?_, hrest⟩
    rw [Run.attempts_after, Run.attempts_after, hattempts]
    rfl

/-- **The loop over two plans**, one after the other. -/
theorem runFrom_followedBy (ctx : Context) (cluster : Cluster σ τ ρ)
    (hitems : ∀ j < cur.position, (p.item j).isSome) (q : Plan τ) :
    let r := runFrom ctx p cluster cur
    let r' := runFrom ctx (p.followedBy q) cluster cur
    (r.result.exhausted? = none → r' = r) ∧
    (∀ l, r.result.exhausted? = some l →
      (∀ j < r.last.position, (p.item j).isSome) ∧ p.item r.last.position = none ∧
      let rest := runFrom ctx q cluster { r.last with position := 0, errors := [] }
      r'.attempts = r.attempts ++ rest.attempts.map (Attempt.shift r.last.position) ∧
      r'.result = rest.result.listing l ∧
      Cursor.Alike r.last.position l rest.last r'.last) := by
  intro r r'
  -- what the second plan adds to the first one, from the end of the first one on
  have hrest : ∀ last : Cursor σ, (∀ j < last.position, (p.item j).isSome) →
      p.item last.position = none →
      Run.Alike last.position last.errors
        (runFrom ctx q cluster { last with position := 0, errors := [] })
        (runFrom ctx (p.followedBy q) cluster last) := by
    intro last hsome hnone
    have hcur : Cursor.Alike last.position last.errors
        { last with position := 0, errors := [] } last :=
      ⟨(Nat.zero_add _).symm, rfl, rfl, (List.append_nil _).symm, rfl, rfl, rfl⟩
    exact runFrom_alike hcur (Plan.item_followedBy_add hsome hnone q)
  cases item : p.item cur.position with
  | none =>
    have hr : r = Run.ended cur (.failed (.ofExhausted cur.errors)) := runFrom_of_none item
    have halike := hrest cur hitems item
    rw [hr, Run.result_ended, Result.exhausted?_ofExhausted]
    refine ⟨nofun, ?_⟩
    rintro _ ⟨rfl⟩
    exact ⟨hitems, item, halike.attempts, halike.result, halike.last⟩
  | some target =>
    have hitems' : ∀ j ≤ cur.position, (p.item j).isSome := by
      intro j hj
      rcases Nat.lt_or_eq_of_le hj with hj | rfl
      · exact hitems j hj
      · exact Option.isSome_iff_exists.2 ⟨_, item⟩
    have item' : (p.followedBy q).item cur.position = some target := by
      rw [Plan.item_followedBy_of_lt (n := cur.position + 1)
        (fun j hj => hitems' j (Nat.le_of_lt_succ hj)) (Nat.lt_succ_self _), item]
    obtain ⟨run, h, hr⟩ := runFrom_of_item ctx cluster item
    obtain ⟨run', h', hr'⟩ := runFrom_of_item ctx cluster item'
    obtain ⟨hsome, hlast⟩ := h.items hitems'
    rw [show r = _ from hr, show r' = _ from hr']
    refine ⟨fun hl => ?_, fun l hl => ?_⟩
    · have hlast' : (p.item run.last.position).isSome := by
        rw [hlast, show run.result.exhausted? = none from hl]
        rfl
      have hitems₁ : ∀ j < run.last.position + 1, (p.item j).isSome := by
        intro j hj
        rcases Nat.lt_succ_iff_lt_or_eq.1 hj with hj | rfl
        · exact hsome j hj
        · exact hlast'
      have hsame : Runs ctx (p.followedBy q) cluster target cur run := h.congr_plan fun j hj =>
        Plan.item_followedBy_of_lt hitems₁ (Nat.lt_succ_of_le hj) q
      rw [h'.unique hsame]
    · have hnone : p.item run.last.position = none := by
        rw [show run.result.exhausted? = some l from hl] at hlast
        simpa using hlast
      have herrors : l = run.last.errors := (h.last_of_exhausted hl).1
      obtain ⟨run'', h'', hattempts, hresult, hend⟩ := h.followedBy hitems' hl q
      have halike := hrest run.last hsome hnone
      rw [h'.unique h'', herrors]
      refine ⟨hsome, hnone, ?_, hresult.trans halike.result, ?_⟩
      · exact hattempts.trans (congrArg _ halike.attempts)
      · rw [show run''.last = _ from hend]
        exact halike.last

/-- **Where a request stands that has used up its plan**, in terms of its attempts. -/
theorem runFrom_start_last {level : Consistency} {store : Store} {state : σ}
    (hl : (runFrom ctx p cluster (.start level store state)).result.exhausted? = some l) :
    let r := runFrom ctx p cluster (.start level store state)
    r.last = ⟨r.last.position, (r.attempts.getLast?.map Attempt.levelAfter).getD level,
      r.attempts.length, l, r.last.elapsed, store.after r.attempts,
      cluster.after state r.attempts⟩ := by
  intro r
  have hstart : (Cursor.start level store state).position = 0 := rfl
  cases item : p.item (Cursor.start level store state).position with
  | none =>
    have hr : r = Run.ended (.start level store state) (.failed (.ofExhausted [])) :=
      runFrom_of_none item
    have hl' : r.result.exhausted? = some l := hl
    rw [hr, Run.result_ended, Result.exhausted?_ofExhausted] at hl'
    obtain rfl : [] = l := Option.some.inj hl'
    rw [hr]
    rfl
  | some target =>
    obtain ⟨run, h, hr⟩ := runFrom_of_item ctx cluster item
    have hrun : run.result.exhausted? = some l := by
      rw [hr] at hl
      exact hl
    obtain ⟨herrors, -, hcount, hlevel⟩ := h.last_of_exhausted hrun
    have hcount' : run.last.retryCount = run.attempts.length := hcount.trans (Nat.zero_add _)
    have hstore : run.last.store = store.after run.attempts := h.stands.store
    have hstate : run.last.state = cluster.after state run.attempts := h.stands.state
    rw [show r = _ from hr]
    simp only [hlevel, Option.getD_some, herrors, ← hcount', ← hstore, ← hstate]

end Runs

/-- **Executing over two plans**, one after the other. If the first one is not used up, nothing of
the second one matters. If it is used up, with the errors `l` listed, the request goes on as the
loop does over the second plan from its beginning, at the level that the last decision left, with
one retry counted for each attempt made; and what that lists is listed after `l`. -/
theorem execute_followedBy (x : Executor) (s : Statement) (p q : Plan τ) (cluster : Cluster σ τ ρ)
    (patience : Option Duration) (store : Store) (state : σ) :
    let ctx := x.context s patience store
    let r := x.execute s p cluster patience store state
    let r' := x.execute s (p.followedBy q) cluster patience store state
    (r.result.exhausted? = none → r' = r) ∧
    ∀ l, r.result.exhausted? = some l →
      ∃ k, (∀ j < k, (p.item j).isSome) ∧ p.item k = none ∧
        let level := (r.attempts.getLast?.map Attempt.levelAfter).getD ctx.terms.consistency
        let rest := runFrom ctx q cluster ⟨0, level, r.attempts.length, [], r.last.elapsed,
          store.after r.attempts, cluster.after state r.attempts⟩
        r'.attempts = r.attempts ++ rest.attempts.map (Attempt.shift k) ∧
        Cursor.Alike k l rest.last r'.last ∧
        (rest.result.exhausted? = none → r'.result = rest.result) ∧
        ∀ l', rest.result.exhausted? = some l' →
          (l ++ l' ≠ [] → r'.result = .failed (.noHostAvailable (l ++ l'))) ∧
          (l ++ l' = [] → r'.result = .failed .emptyPlan) := by
  intro ctx r r'
  let cur : Cursor σ := .start ctx.terms.consistency store state
  let run := fun plan => runFrom ctx plan cluster cur
  obtain ⟨hsame, hrest⟩ :=
    runFrom_followedBy ctx cluster (show ∀ j < cur.position, (p.item j).isSome from nofun) q
  refine ⟨fun hnone => ?_, fun l hl => ?_⟩
  · have hrun : run (p.followedBy q) = run p := hsame hnone
    rw [show r' = _ from x.execute_eq s (p.followedBy q) cluster patience store state,
      show runFrom ⟨x.terms s store, patience⟩ (p.followedBy q) cluster
        (.start (x.terms s store).consistency store state) = run p from hrun]
    rfl
  · obtain ⟨hsome, hnone, hattempts, hresult, hlast⟩ := hrest l hl
    have hcur := runFrom_start_last
      (show (runFrom ctx p cluster cur).result.exhausted? = some l from hl)
    refine ⟨(run p).last.position, hsome, hnone, ?_⟩
    intro level rest
    have hfrom : runFrom ctx q cluster { (run p).last with position := 0, errors := [] } = rest :=
      congrArg (fun c : Cursor σ =>
        runFrom ctx q cluster { c with position := 0, errors := [] }) hcur
    rw [hfrom] at hattempts hresult hlast
    have hresult' : r'.result = rest.result.listing l := hresult
    refine ⟨hattempts, hlast, fun hnone => ?_, fun l' hl' => ?_⟩
    · rw [hresult', Result.listing_of_exhausted?_eq_none hnone]
    · have hlisted : r'.result = .failed (.ofExhausted (l ++ l')) := by
        rw [hresult', Result.listing, hl']
      refine ⟨fun hne => ?_, fun hnil => ?_⟩
      · obtain ⟨e, es, he⟩ := List.exists_cons_of_ne_nil hne
        rw [hlisted, he]
        rfl
      · rw [hlisted, hnil]
        rfl

end Reattempt
