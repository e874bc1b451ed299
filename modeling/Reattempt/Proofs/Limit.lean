import Reattempt.Proofs.Alike
import Reattempt.Proofs.Ending

/-!
# Other limits on retries

A higher limit lets a run go on where a lower one stops it, and changes nothing
before. Where the lower limit forbids a retry, the request fails with the error
of that very attempt, even if the higher one allows a retry that finds no target
left.

* `Runs.raise`: a run under a lower limit and the one under a higher limit.
* `Store.withLimit`: a profile gets another limit.
* `execute_raise`: the executions of a statement under two limits.
-/

namespace Reattempt

variable {σ τ ρ : Type}

theorem Attempt.suppressed_eq_false_of_course {limit : Nat} {a : Attempt τ ρ} {result : Result ρ}
    (h : a.outcome.course = .over result) : a.suppressed limit = false := by
  refine Bool.eq_false_iff.2 fun hs => ?_
  obtain ⟨e, v, fails, asks, -⟩ := suppressed_iff.1 hs
  rw [fails] at h
  cases hv : v.decision <;> simp_all [Outcome.course, Decision.isRetry]

theorem Attempt.suppressed_eq_false_of_lt {limit : Nat} {a : Attempt τ ρ}
    (h : a.retryCount < limit) : a.suppressed limit = false := by
  refine Bool.eq_false_iff.2 fun hs => ?_
  obtain ⟨-, -, -, -, full⟩ := suppressed_iff.1 hs
  exact absurd h (Nat.not_lt.2 full)

section Runs

variable {ctx ctx' : Context} {plan : Plan τ} {cluster : Cluster σ τ ρ} {target : τ}
  {cur cur' : Cursor σ}

/-- **Two limits.** Either the lower limit forbids no retry, and the runs are the same; or it
forbids one after the attempt that reaches it, which is the last one, and the other run makes the
same attempts up to there. -/
theorem Runs.raise {r r' : Run σ τ ρ} (h : Runs ctx plan cluster target cur r)
    (h' : Runs ctx' plan cluster target cur' r') (hctx : ctx.Alike ctx')
    (hcur : Cursor.Alike 0 [] cur cur') (hle : ctx.terms.maxRetries ≤ ctx'.terms.maxRetries)
    (hcount : cur.retryCount ≤ ctx.terms.maxRetries) :
    ((∀ a ∈ r.attempts, a.suppressed ctx.terms.maxRetries = false) ∧
        r'.attempts = r.attempts ∧ r'.result = r.result) ∨
      (cur.retryCount + r.attempts.length = ctx.terms.maxRetries + 1 ∧
        r.attempts <+: r'.attempts ∧
        ∃ a e, r.attempts.getLast? = some a ∧ a.suppressed ctx.terms.maxRetries = true ∧
          a.outcome.error? = some e ∧ r.result = .failed (.ofAttempt e)) := by
  induction h generalizing cur' r' with
  | @stop target cur r ends =>
    obtain ⟨hrecord, hattempt⟩ := hcur.attempt hctx cluster target
    have houtcome := hcur.outcome_attempt hctx cluster target
    cases ends with
    | settled settles =>
      have hr' := h'.unique (.stop (.settled (houtcome ▸ settles)))
      refine .inl ⟨fun a ha => ?_, ?_, ?_⟩
      · rw [List.mem_singleton.1 ha]
        exact Attempt.suppressed_eq_false_of_course settles
      · rw [hr', Run.attempts_after, hrecord]
        rfl
      · rw [hr']
        rfl
    -- here the lower limit bites; the other run makes at least this attempt
    | @limited e v fails asks full =>
      have hfirst := h'.getElem?_zero
      rw [hrecord] at hfirst
      obtain ⟨rest, hrest⟩ :
          ∃ rest, r'.attempts = (cur.attempt ctx cluster target).record :: rest := by
        cases hr' : r'.attempts with
        | nil => rw [hr'] at hfirst; cases hfirst
        | cons a rest => rw [hr'] at hfirst; cases hfirst; exact ⟨rest, rfl⟩
      refine .inr ⟨?_, ?_, _, e, rfl, ?_, ?_, rfl⟩
      · show cur.retryCount + 1 = _
        omega
      · rw [hrest]
        exact ⟨rest, rfl⟩
      · exact Attempt.suppressed_iff.2 ⟨e, v, fails, asks, full⟩
      · exact Outcome.error?_eq_some_iff.2 ⟨v, fails⟩
    | @exhausted e v level last fails asks allowed item stands =>
      subst stands
      have hlast := (hattempt.retry level).leave (cluster.address target) e
      have hallowed : cur'.retryCount < ctx'.terms.maxRetries := by
        rw [hcur.retryCount]
        exact Nat.lt_of_lt_of_le allowed hle
      have hitem : plan.item (cur'.position + 1) = none := by rw [hcur.position]; exact item
      have hr' := h'.unique
        (.stop (.exhausted (houtcome.trans fails) asks hallowed hitem rfl))
      refine .inl ⟨fun a ha => ?_, ?_, ?_⟩
      · rw [List.mem_singleton.1 ha]
        exact Attempt.suppressed_eq_false_of_lt allowed
      · rw [hr', Run.attempts_after, hrecord]
        rfl
      · rw [hr', Run.result_after, Run.result_ended, hlast.errors]
        rfl
  | @go target next cur cur₁ more r leads rest ih =>
    have hallowed : cur'.retryCount < ctx'.terms.maxRetries := by
      rw [hcur.retryCount]
      exact Nat.lt_of_lt_of_le leads.allowed hle
    obtain ⟨cur₁', hleads, hcur₁⟩ := leads.alike hctx hcur hallowed (by rw [hcur.position])
    -- the other run takes the same step, so what is left of it is a run from there
    have hr' := h'.unique (.go hleads (runs_runAt _ rfl))
    have hcount₁ : cur₁.retryCount ≤ ctx.terms.maxRetries := by
      rw [leads.retryCount_eq]
      exact leads.allowed
    have hattempts : r'.attempts = (cur.attempt ctx cluster target).record ::
        (runAt ctx' plan cluster (ctx'.terms.maxRetries - cur₁'.retryCount) next
          cur₁').attempts := by
      rw [hr', Run.attempts_after, (hcur.attempt hctx cluster target).1]
      rfl
    rcases ih (runs_runAt _ rfl) hcur₁ hcount₁ with
      ⟨hnone, hsame, hresult⟩ | ⟨hlength, hprefix, a, e, ha, hs, he, hresult⟩
    · refine .inl ⟨fun a ha => ?_, ?_, ?_⟩
      · rcases List.mem_cons.1 ha with rfl | ha
        · exact Attempt.suppressed_eq_false_of_lt leads.allowed
        · exact hnone a ha
      · rw [hattempts, hsame]
        rfl
      · rw [hr', Run.result_after, hresult]
        rfl
    · refine .inr ⟨?_, ?_, a, e, ?_, hs, he, hresult⟩
      · have hcount₂ := leads.retryCount_eq
        simp only [Run.attempts_after, List.length_cons]
        omega
      · rw [hattempts]
        exact (List.prefix_cons_inj _).2 hprefix
      · rw [Run.attempts_after, List.getLast?_cons, ha]
        rfl

/-- What the policy said to the failed attempts of a run, with what its leaf was asked. -/
def Run.verdicts (r : Run σ τ ρ) : List Verdict := r.attempts.filterMap (·.outcome.verdict?)

/-- Each attempt that leads to another one has a verdict, so the first verdicts of a run are those
of its first attempts. -/
theorem Runs.take_verdicts {r : Run σ τ ρ} (h : Runs ctx plan cluster target cur r) (n : Nat) :
    r.verdicts.take n = (r.attempts.take n).filterMap (·.outcome.verdict?) := by
  unfold Run.verdicts
  induction h generalizing n with
  | @stop target cur r ends =>
    rw [ends.attempts]
    cases n with
    | zero => rfl
    | succ n => cases hv : (cur.attempt ctx cluster target).record.outcome.verdict? <;> simp [hv]
  | @go target next cur cur₁ more r leads rest ih =>
    obtain ⟨d, hd⟩ := Option.isSome_iff_exists.1 leads.retry?_isSome
    obtain ⟨e, v, fails, -⟩ := Attempt.retry?_eq_some_iff.1 hd
    have hv : (cur.attempt ctx cluster target).record.outcome.verdict? = some v := by
      rw [fails]
      rfl
    cases n with
    | zero => rfl
    | succ n => simp [hv, ih]

/-- **Two limits, from the same point of a plan on.** -/
theorem runFrom_raise (plan : Plan τ) (cluster : Cluster σ τ ρ) (hctx : ctx.Alike ctx')
    (hcur : Cursor.Alike 0 [] cur cur')
    (hle : ctx.terms.maxRetries ≤ ctx'.terms.maxRetries)
    (hcount : cur.retryCount ≤ ctx.terms.maxRetries) :
    let m := ctx.terms.maxRetries
    let r := runFrom ctx plan cluster cur
    let r' := runFrom ctx' plan cluster cur'
    let n := min (m + 1 - cur.retryCount) r'.attempts.length
    r.attempts = r'.attempts.take n ∧ r.verdicts = r'.verdicts.take n ∧
    (((∀ a ∈ r.attempts, a.suppressed m = false) ∧ r'.attempts = r.attempts ∧
        r'.result = r.result) ∨
      (cur.retryCount + r.attempts.length = m + 1 ∧
        ∃ a e, r.attempts.getLast? = some a ∧ a.suppressed m = true ∧
          a.outcome.error? = some e ∧ r.result = .failed (.ofAttempt e))) := by
  intro m r r' n
  have hposition : cur'.position = cur.position := hcur.position
  cases item : plan.item cur.position with
  | none =>
    have hr : r = Run.ended cur (.failed (.ofExhausted cur.errors)) := runFrom_of_none item
    have hr' : r' = Run.ended cur' (.failed (.ofExhausted cur'.errors)) :=
      runFrom_of_none (hposition ▸ item)
    have herrors : cur'.errors = cur.errors := hcur.errors
    refine ⟨?_, ?_, .inl ⟨fun a ha => ?_, ?_, ?_⟩⟩
    · rw [hr, hr', Run.attempts_ended, Run.attempts_ended, List.take_nil]
    · rw [hr, hr', Run.verdicts, Run.verdicts, Run.attempts_ended, Run.attempts_ended,
        List.filterMap_nil, List.take_nil]
    · rw [hr] at ha
      cases ha
    · rw [hr, hr']
      rfl
    · rw [hr, hr', herrors]
      rfl
  | some target =>
    obtain ⟨run, h, hr⟩ := runFrom_of_item ctx cluster item
    have item' : plan.item cur'.position = some target := by rw [hposition, item]
    obtain ⟨run', h', hr'⟩ := runFrom_of_item ctx' cluster item'
    have hraise := h.raise h' hctx hcur hle hcount
    have hlength : run.attempts.length ≤ m + 1 - cur.retryCount := by
      have hbound := length_attempts_runAt ctx plan cluster (m - cur.retryCount) target cur
      rw [← h.eq_runAt] at hbound
      omega
    have hn : n = min (m + 1 - cur.retryCount) run'.attempts.length := by
      simp only [n, show r' = _ from hr']
    have htake : run.attempts = run'.attempts.take n := by
      rcases hraise with ⟨-, hsame, -⟩ | ⟨hfull, hprefix, -⟩
      · rw [hn, hsame, Nat.min_eq_right hlength, List.take_length]
      · have hn' : n = run.attempts.length := by
          have hle' := hprefix.length_le
          omega
        rw [hn']
        exact List.prefix_iff_eq_take.1 hprefix
    have hverdicts : run.verdicts = run'.verdicts.take n := by
      rw [h'.take_verdicts, ← htake]
      rfl
    rw [show r = _ from hr, show r' = _ from hr']
    refine ⟨htake, hverdicts, ?_⟩
    rcases hraise with hsame | ⟨hfull, -, hlast⟩
    · exact .inl hsame
    · exact .inr ⟨hfull, hlast⟩

end Runs

/-- The store in which the profile under a handle has another limit on retries. -/
def Store.withLimit (s : Store) (h : Handle) (limit : UInt32) : Store :=
  s.remap h { s.profile h with maxRetries := limit }

/-- The terms of a request under a profile with another limit. -/
theorem Executor.terms_withLimit (x : Executor) (s : Statement) (store : Store) (limit : UInt32) :
    x.terms s (store.withLimit (s.chosen x.handle) limit) =
      { x.terms s store with maxRetries := limit.toNat } := by
  have hprofile : (store.withLimit (s.chosen x.handle) limit).profile (s.chosen x.handle) =
      { store.profile (s.chosen x.handle) with maxRetries := limit } := by
    rw [Store.withLimit, Store.profile_remap, if_pos rfl]
  rw [terms, hprofile]
  rfl

/-- **A higher limit only makes a run longer.** The attempts and the verdicts under the lower limit
are the first ones under the higher limit, as many as the lower one allows. Where the lower limit
forbids no retry, the result is the same too. Where it forbids one, it is after the attempt that
reaches it, and the request fails with the error of that attempt, however the other run ends. -/
theorem execute_raise (x : Executor) (s : Statement) (plan : Plan τ) (cluster : Cluster σ τ ρ)
    (patience : Option Duration) (store : Store) (state : σ) {m m' : UInt32} (hle : m ≤ m') :
    let run := fun limit =>
      x.execute s plan cluster patience (store.withLimit (s.chosen x.handle) limit) state
    let r := run m
    let r' := run m'
    let n := r'.attempts.length
    r.attempts = r'.attempts.take (min (m.toNat + 1) n) ∧
    r.verdicts = r'.verdicts.take (min (m.toNat + 1) n) ∧
    ((∀ a ∈ r.attempts, a.suppressed m.toNat = false) →
      r'.attempts = r.attempts ∧ r'.result = r.result) ∧
    ((∃ a ∈ r.attempts, a.suppressed m.toNat = true) →
      r.attempts.length = m.toNat + 1 ∧
      ∃ a e, r.attempts[m.toNat]? = some a ∧ a.outcome.error? = some e ∧
        (∀ t, e = .clientTimeout t → r.result = .failed (.requestTimeout t)) ∧
        ((∀ t, e ≠ .clientTimeout t) → r.result = .failed (.lastAttempt e))) := by
  intro run r r' n
  let ctx := fun limit : UInt32 =>
    Context.mk { x.terms s store with maxRetries := limit.toNat } patience
  let cur := fun limit => Cursor.start (x.terms s store).consistency
    (store.withLimit (s.chosen x.handle) limit) state
  -- only the limit differs between the requests, and no attempt depends on what handles point to
  have hctx : (ctx m).Alike (ctx m') := ⟨rfl, rfl, rfl, rfl⟩
  have hcur : Cursor.Alike 0 [] (cur m) (cur m') := ⟨rfl, rfl, rfl, rfl, rfl, rfl, rfl⟩
  have hrun : ∀ limit,
      (run limit).attempts = (runFrom (ctx limit) plan cluster (cur limit)).attempts ∧
        (run limit).result = (runFrom (ctx limit) plan cluster (cur limit)).result := by
    intro limit
    simp only [run, x.execute_eq, x.terms_withLimit, ctx, cur, and_self]
  obtain ⟨hattempts, hverdicts, hends⟩ := runFrom_raise plan cluster hctx hcur
    (UInt32.le_iff_toNat_le.1 hle) (Nat.zero_le _)
  simp only [Run.verdicts, ← (hrun m).1, ← (hrun m').1, ← (hrun m).2, ← (hrun m').2]
    at hattempts hverdicts hends
  refine ⟨hattempts, hverdicts, fun hnone => ?_, fun hsome => ?_⟩
  · rcases hends with ⟨-, hsame⟩ | ⟨-, a, e, ha, hs, -⟩
    · exact hsame
    · rw [hnone a (List.mem_of_getLast? ha)] at hs
      cases hs
  · rcases hends with ⟨hnone, -⟩ | ⟨hlength, a, e, ha, -, he, hresult⟩
    · obtain ⟨a, ha, hs⟩ := hsome
      rw [hnone a ha] at hs
      cases hs
    · have hlength' : r.attempts.length = m.toNat + 1 := (Nat.zero_add _).symm.trans hlength
      rw [List.getLast?_eq_getElem?, show (run m).attempts.length = _ from hlength',
        Nat.add_sub_cancel] at ha
      refine ⟨hlength', a, e, ha, he, ?_, ?_⟩
      · rintro t rfl
        exact hresult
      · exact fun hne => hresult.trans (by
          rw [RequestError.ofAttempt_eq_lastAttempt_iff.2 ⟨rfl, hne⟩])

/-- One target, to which the connection always breaks. -/
def Cluster.broken : Cluster Unit Unit Unit where
  address _ := ⟨"10.0.0.1:9042"⟩
  call _ _ _ := (⟨[], some (⟨0⟩, .error (.brokenConnection .channelClosed))⟩, ())

/-- Without any retry the request fails with the error of its only attempt. With one retry allowed
the same attempt is made, and then no target is left. -/
theorem execute_raise_exhausted :
    let run := fun limit => (Executor.mk ⟨0, none⟩).execute (.ofText "SELECT") (.ofList [()])
      .broken none (Store.empty.withLimit ⟨0, none⟩ limit) ()
    (0 : UInt32) ≤ 1 ∧ (run 0).attempts = (run 1).attempts ∧
      (run 0).result = .failed (.lastAttempt (.brokenConnection .channelClosed)) ∧
      (run 1).result.exhausted? =
        some [(⟨"10.0.0.1:9042"⟩, .brokenConnection .channelClosed)] := by
  intro run
  obtain ⟨hattempts, -, -, hlimited⟩ := execute_raise ⟨⟨0, none⟩⟩ (.ofText "SELECT") (.ofList [()])
    .broken none .empty () (show (0 : UInt32) ≤ 1 by decide)
  have hlength : (run 1).attempts.length = 1 := by decide +kernel
  have hsame : (run 0).attempts = (run 1).attempts := by
    have htake : (run 0).attempts = (run 1).attempts.take (min 1 (run 1).attempts.length) :=
      hattempts
    rwa [hlength, Nat.min_self, ← hlength, List.take_length] at htake
  have hsuppressed : (run 0).attempts.any (·.suppressed 0) = true := by decide +kernel
  have herror : (run 0).attempts[0]?.bind (·.outcome.error?) =
      some (.brokenConnection .channelClosed) := by decide +kernel
  obtain ⟨-, a, e, ha, he, -, hresult⟩ := hlimited (List.any_eq_true.1 hsuppressed)
  have ha' : (run 0).attempts[0]? = some a := ha
  rw [ha', Option.bind_some, he] at herror
  cases herror
  exact ⟨by decide, hsame, hresult nofun, by decide +kernel⟩

end Reattempt
