import Reattempt.Proofs.Succession

/-!
# Runs abreast

Where a run goes depends on what its policy decides about its failures, and on
nothing else that policies say or calls write. So a request under another policy,
whose calls write other things to shared places, makes the same attempts over the
same plan, as long as the other policy decides the same about each of them.

* `View`: how much of a verdict is looked at, besides the decision.
* `Cluster.rewriting`: the same targets, with other writes.
* `Configured.Concurs`: another policy has the same to say about an attempt.
* `Cursor.Abreast`, `Run.Abreast`: where runs stand alike, and runs that look alike.
* `Cursor.Abreast.attempt`: they make the same attempt.
* `Leads.abreast`, `Ends.abreast`: they take the same step.
* `Runs.abreast`, `Executor.execute_abreast`: they look alike as a whole.
-/

namespace Reattempt

variable {σ τ ρ : Type}

/-- How much of a verdict is looked at; the decision always is. -/
structure View where
  /-- Whether it counts what the leaf was asked about. -/
  consulted : Bool
  /-- Which remarks count. -/
  remark : Remark → Bool

namespace View

/-- All of a verdict. -/
def whole : View := ⟨true, fun _ => true⟩

/-- The decision alone. -/
def decision : View := ⟨false, fun _ => false⟩

end View

/-- What is seen of a verdict. -/
def Verdict.seen (view : View) (v : Verdict) : Verdict :=
  ⟨v.decision, if view.consulted then v.consulted else [], v.remarks.filter view.remark⟩

@[simp] theorem Verdict.seen_whole (v : Verdict) : v.seen .whole = v := by
  simp [seen, View.whole]

theorem Verdict.seen_decision_eq_iff {v v' : Verdict} :
    v'.seen .decision = v.seen .decision ↔ v'.decision = v.decision := by
  simp [seen, View.decision]

namespace Outcome

/-- What is seen of an outcome. -/
def seen (view : View) : Outcome ρ → Outcome ρ
  | failed e v => failed e (v.seen view)
  | o => o

variable {view : View} {o o' : Outcome ρ}

theorem of_seen_eq_failed {e : AttemptError} {v : Verdict} (h : o'.seen view = o.seen view)
    (ho : o = .failed e v) :
    ∃ v', o' = .failed e v' ∧ v'.decision = v.decision ∧ v'.seen view = v.seen view := by
  subst ho
  cases o' with
  | failed e' v' =>
    simp only [seen, Outcome.failed.injEq] at h
    obtain ⟨rfl, hv⟩ := h
    have hd : (v'.seen view).decision = (v.seen view).decision := by rw [hv]
    exact ⟨v', rfl, hd, hv⟩
  | answered response => cases h
  | pending => cases h

/-- What is always seen of an outcome says where the run goes. -/
theorem course_eq_of_seen (h : o'.seen view = o.seen view) : o'.course = o.course := by
  cases o with
  | failed e v =>
    obtain ⟨v', rfl, hd, -⟩ := of_seen_eq_failed h rfl
    simp only [course, hd]
  | answered response => cases o' <;> cases h; rfl
  | pending => cases o' <;> cases h; rfl

end Outcome

namespace Attempt

/-- What is seen of an attempt. -/
def seen (view : View) (a : Attempt τ ρ) : Attempt τ ρ := { a with outcome := a.outcome.seen view }

/-- The record of an attempt whose call writes something else. -/
def rewriting (w : List Effect → List Effect) (a : Attempt τ ρ) : Attempt τ ρ :=
  { a with effects := w a.effects }

@[simp] theorem seen_whole (a : Attempt τ ρ) : a.seen .whole = a := by
  obtain ⟨position, target, consistency, retryCount, effects, outcome⟩ := a
  cases outcome <;> simp [seen, Outcome.seen]

@[simp] theorem map_rewriting_id (as : List (Attempt τ ρ)) : as.map (rewriting id) = as :=
  List.map_id as

@[simp] theorem effects_rewriting (w : List Effect → List Effect) (a : Attempt τ ρ) :
    (a.rewriting w).effects = w a.effects := rfl

end Attempt

/-- Whether an event is looked at. -/
def Event.isSeen (view : View) : Event → Bool
  | remarked r => view.remark r
  | _ => true

/-- The events of an attempt that are looked at are those of what is seen of it. -/
theorem Attempt.filter_events (view : View) (a : Attempt τ ρ) :
    a.events.filter (Event.isSeen view) = (a.seen view).events := by
  unfold events seen
  cases ho : a.outcome with
  | answered response => rfl
  | pending => rfl
  | failed e v =>
    simp only [Outcome.seen, Verdict.seen, List.filter_cons, List.filter_append, List.filter_map,
      Event.isSeen, if_true, List.filter_nil]
    rfl

/-- The same targets, whose calls write something else to shared places. -/
def Cluster.rewriting (w : List Effect → List Effect) (cluster : Cluster σ τ ρ) :
    Cluster σ τ ρ where
  address := cluster.address
  call state target level :=
    let called := cluster.call state target level
    ({ called.1 with effects := w called.1.effects }, called.2)

theorem Store.after_cons (s : Store) (a : Attempt τ ρ) (as : List (Attempt τ ρ)) :
    s.after (a :: as) = (s.applyAll a.effects).after as := by
  simp only [after, applyAll, List.flatMap_cons, List.foldl_append]

/-- The same request under another policy. -/
def Context.under (ctx : Context) (c : Configured) : Context :=
  { ctx with terms := { ctx.terms with policy := c } }

/-- **Another policy concurs with the verdict on an attempt**, as far as one looks. -/
def Configured.Concurs (view : View) (query : Query) (c : Configured) (flags : Flags)
    (a : Attempt τ ρ) : Prop :=
  ∀ e v, a.outcome = .failed e v →
    (c.decide flags query a.consistency e a.retryCount).seen view = v.seen view

/-- Runs that stand alike, but for what is in shared places. -/
structure Cursor.Abreast (cur cur' : Cursor σ) : Prop where
  position : cur'.position = cur.position
  consistency : cur'.consistency = cur.consistency
  retryCount : cur'.retryCount = cur.retryCount
  errors : cur'.errors = cur.errors
  elapsed : cur'.elapsed = cur.elapsed
  state : cur'.state = cur.state

/-- **Runs that look alike**: the attempts, but for what their calls write, the events and the
result. -/
structure Run.Abreast (view : View) (w : List Effect → List Effect) (r r' : Run σ τ ρ) :
    Prop where
  attempts : r'.attempts.map (Attempt.seen view) =
    r.attempts.map fun a => (a.rewriting w).seen view
  events : r'.events.filter (Event.isSeen view) = r.events.filter (Event.isSeen view)
  result : r'.result = r.result
  last : r.last.Abreast r'.last

variable {ctx : Context} {plan : Plan τ} {cluster : Cluster σ τ ρ} {target : τ}
  {cur cur' : Cursor σ} {view : View} {w : List Effect → List Effect} {c : Configured}

namespace Cursor.Abreast

theorem refl (cur : Cursor σ) : cur.Abreast cur := ⟨rfl, rfl, rfl, rfl, rfl, rfl⟩

theorem retry (h : cur.Abreast cur') (level : Option Consistency) :
    (cur.retry level).Abreast (cur'.retry level) where
  position := h.position
  consistency := by rw [retry_consistency, retry_consistency, h.consistency]
  retryCount := by rw [retry_retryCount, retry_retryCount, h.retryCount]
  errors := h.errors
  elapsed := h.elapsed
  state := h.state

theorem leave (h : cur.Abreast cur') (address : Address) (error : AttemptError) :
    (cur.leave address error).Abreast (cur'.leave address error) where
  position := by rw [leave_position, leave_position, h.position]
  consistency := h.consistency
  retryCount := h.retryCount
  errors := by rw [leave_errors, leave_errors, h.errors]
  elapsed := h.elapsed
  state := h.state

theorem await (h : cur.Abreast cur') (c : Configured)
    (answer : Option (Duration × Except AttemptError ρ)) :
    cur'.await (ctx.under c) answer = cur.await ctx answer := by
  unfold Cursor.await inPatience
  rw [h.elapsed]
  rfl

theorem advance (h : cur.Abreast cur') (effects effects' : List Effect) (spent : Option Duration)
    (state : σ) :
    (cur.advance effects spent state).Abreast (cur'.advance effects' spent state) where
  position := h.position
  consistency := h.consistency
  retryCount := h.retryCount
  errors := h.errors
  elapsed := by simp only [Cursor.advance, h.elapsed]
  state := rfl

/-- Only an error is put to the policies. -/
theorem seen_outcome (received : Option (Except AttemptError ρ))
    (h : ∀ e v, cur.outcome ctx received = .failed e v →
      (cur'.verdict (ctx.under c) e).seen view = v.seen view) :
    (cur'.outcome (ctx.under c) received).seen view = (cur.outcome ctx received).seen view := by
  cases received with
  | none => rfl
  | some received =>
    cases received with
    | ok response => rfl
    | error e => exact congrArg (Outcome.failed e) (h e _ rfl)

/-- **Where runs stand alike they make the same attempt**, if the other policy concurs with the
verdict on it. -/
theorem attempt (h : cur.Abreast cur')
    (concurs : c.Concurs view ctx.terms.query
      (cur'.store.applyAll (w (cur.attempt ctx cluster target).record.effects)).flags
      (cur.attempt ctx cluster target).record) :
    (cur'.attempt (ctx.under c) (cluster.rewriting w) target).record.seen view =
        ((cur.attempt ctx cluster target).record.rewriting w).seen view ∧
      (cur.attempt ctx cluster target).cursor.Abreast
        (cur'.attempt (ctx.under c) (cluster.rewriting w) target).cursor ∧
      (cur'.attempt (ctx.under c) (cluster.rewriting w) target).cursor.store =
        cur'.store.applyAll (w (cur.attempt ctx cluster target).record.effects) := by
  simp only [Cursor.attempt, Cluster.rewriting, h.state, h.consistency, h.await c]
  let called := cluster.call cur.state target cur.consistency
  let waited := cur.await ctx called.1.answer
  have hcursor := h.advance called.1.effects (w called.1.effects) (waited.map Prod.fst) called.2
  refine ⟨?_, hcursor, rfl⟩
  let after := cur.advance called.1.effects (waited.map Prod.fst) called.2
  let after' := cur'.advance (w called.1.effects) (waited.map Prod.fst) called.2
  have houtcome : (after'.outcome (ctx.under c) (waited.map Prod.snd)).seen view =
      (after.outcome ctx (waited.map Prod.snd)).seen view := by
    refine seen_outcome _ fun e v hv => ?_
    rw [← concurs e v hv]
    show (c.decide _ _ cur'.consistency e cur'.retryCount).seen view = _
    rw [h.consistency, h.retryCount]
    rfl
  simp only [Attempt.seen, Attempt.rewriting, Attempt.mk.injEq, true_and]
  exact ⟨h.position, h.retryCount, houtcome⟩

end Cursor.Abreast

/-- What is seen of an outcome, when one attempt was made by two runs. -/
theorem Attempt.outcome_of_seen {a a' : Attempt τ ρ}
    (h : a'.seen view = (a.rewriting w).seen view) :
    a'.outcome.seen view = a.outcome.seen view := congrArg Attempt.outcome h

/-- **An attempt leads to alike ones**, if the other policy concurs with the verdict on it. -/
theorem Leads.abreast {more : List Event} {next : τ} {cur₁ : Cursor σ}
    (h : Leads ctx plan cluster target cur more next cur₁) (hcur : cur.Abreast cur')
    (concurs : c.Concurs view ctx.terms.query
      (cur'.store.applyAll (w (cur.attempt ctx cluster target).record.effects)).flags
      (cur.attempt ctx cluster target).record) :
    ∃ cur₁', Leads (ctx.under c) plan (cluster.rewriting w) target cur' more next cur₁' ∧
      cur₁.Abreast cur₁' ∧
      cur₁'.store = cur'.store.applyAll (w (cur.attempt ctx cluster target).record.effects) := by
  obtain ⟨hrecord, hattempt, hstore⟩ := hcur.attempt concurs
  have houtcome := Attempt.outcome_of_seen hrecord
  cases h with
  | again fails asks allowed =>
    obtain ⟨v', fails', hd, -⟩ := Outcome.of_seen_eq_failed houtcome fails
    exact ⟨_, .again fails' (hd.trans asks) (hcur.retryCount ▸ allowed), hattempt.retry _, hstore⟩
  | @onward e v level next fails asks allowed item =>
    obtain ⟨v', fails', hd, -⟩ := Outcome.of_seen_eq_failed houtcome fails
    exact ⟨_, .onward fails' (hd.trans asks) (hcur.retryCount ▸ allowed)
      (hcur.position ▸ item), (hattempt.retry _).leave _ _, hstore⟩

namespace Run.Abreast

variable {r r' : Run σ τ ρ}

/-- One attempt put before runs that look alike. -/
theorem after (h : r.Abreast view w r') {a a' : Attempt τ ρ}
    (ha : a'.seen view = (a.rewriting w).seen view) (more : List Event) :
    (r.after a more).Abreast view w (r'.after a' more) where
  attempts := by rw [attempts_after, attempts_after, List.map_cons, List.map_cons, ha, h.attempts]
  events := by
    have hevents : a'.events.filter (Event.isSeen view) = a.events.filter (Event.isSeen view) := by
      rw [Attempt.filter_events, Attempt.filter_events, ha]
      rfl
    simp only [events_after, List.filter_append, hevents, h.events]
  result := h.result
  last := h.last

theorem ended (h : cur.Abreast cur') (result : Result ρ) :
    (Run.ended (τ := τ) cur result).Abreast view w (Run.ended cur' result) where
  attempts := rfl
  events := by simp only [Run.ended, h.retryCount]
  result := rfl
  last := h

theorem exhausted (h : cur.Abreast cur') :
    (Run.ended (τ := τ) (ρ := ρ) cur (.failed (.ofExhausted cur.errors))).Abreast view w
      (Run.ended cur' (.failed (.ofExhausted cur'.errors))) := by
  rw [h.errors]
  exact ended h _

end Run.Abreast

/-- **Runs that stand alike end alike**, if the other policy concurs with the last verdict. -/
theorem Ends.abreast {r : Run σ τ ρ} (h : Ends ctx plan cluster target cur r)
    (hcur : cur.Abreast cur')
    (concurs : c.Concurs view ctx.terms.query
      (cur'.store.applyAll (w (cur.attempt ctx cluster target).record.effects)).flags
      (cur.attempt ctx cluster target).record) :
    ∃ r', Ends (ctx.under c) plan (cluster.rewriting w) target cur' r' ∧ r.Abreast view w r' := by
  obtain ⟨hrecord, hattempt, -⟩ := hcur.attempt concurs
  have houtcome := Attempt.outcome_of_seen hrecord
  cases h with
  | settled settles =>
    rw [← Outcome.course_eq_of_seen houtcome] at settles
    exact ⟨_, .settled settles, (Run.Abreast.ended hattempt _).after hrecord _⟩
  | @limited e v fails asks full =>
    obtain ⟨v', fails', hd, -⟩ := Outcome.of_seen_eq_failed houtcome fails
    refine ⟨_, .limited fails' (hd ▸ asks) (hcur.retryCount ▸ full), ?_⟩
    unfold Run.limited
    rw [hattempt.retryCount]
    exact (Run.Abreast.ended hattempt _).after hrecord _
  | @exhausted e v level last fails asks allowed item stands =>
    subst stands
    obtain ⟨v', fails', hd, -⟩ := Outcome.of_seen_eq_failed houtcome fails
    have hlast := (hattempt.retry level).leave (cluster.address target) e
    refine ⟨_, .exhausted fails' (hd.trans asks) (hcur.retryCount ▸ allowed)
      (hcur.position ▸ item) rfl, ?_⟩
    exact (Run.Abreast.exhausted hlast).after hrecord _

/-- **Runs abreast.** A run goes abreast with one under another policy and with other writes, if
that policy concurs with the verdict on each of its attempts, as the other writes have left the
flags by then. -/
theorem Runs.abreast {r : Run σ τ ρ} (h : Runs ctx plan cluster target cur r)
    (hcur : cur.Abreast cur')
    (concurs : ∀ i a, r.attempts[i]? = some a → c.Concurs view ctx.terms.query
      (cur'.store.after ((r.attempts.take (i + 1)).map (Attempt.rewriting w))).flags a) :
    ∃ r', Runs (ctx.under c) plan (cluster.rewriting w) target cur' r' ∧ r.Abreast view w r' := by
  induction h generalizing cur' with
  | @stop target cur r ends =>
    have hlast := concurs 0 _ (by rw [ends.attempts]; rfl)
    rw [ends.attempts, List.take_succ_cons, List.map_cons, Store.after_cons] at hlast
    obtain ⟨r', hends, hr⟩ := ends.abreast hcur hlast
    exact ⟨r', .stop hends, hr⟩
  | @go target next cur cur₁ more r leads rest ih =>
    have hfirst := concurs 0 _ rfl
    rw [Run.attempts_after, List.take_succ_cons, List.map_cons, Store.after_cons] at hfirst
    obtain ⟨cur₁', hleads, hcur₁, hstore⟩ := leads.abreast hcur hfirst
    -- the other run has written what it writes in the first attempt
    have hrest : ∀ i a, r.attempts[i]? = some a → c.Concurs view ctx.terms.query
        (cur₁'.store.after ((r.attempts.take (i + 1)).map (Attempt.rewriting w))).flags a := by
      intro i a ha
      have hnext := concurs (i + 1) a ha
      rwa [Run.attempts_after, List.take_succ_cons, List.map_cons, Store.after_cons,
        Attempt.effects_rewriting, ← hstore] at hnext
    obtain ⟨r', hruns, hr⟩ := ih hcur₁ hrest
    exact ⟨_, .go hleads hruns, hr.after (hcur.attempt hfirst).1 _⟩

/-- Runs that look alike in all of their verdicts differ at most in what their calls write. -/
theorem Run.Abreast.eq_of_whole {r r' : Run σ τ ρ} (h : r.Abreast .whole w r') :
    r'.attempts = r.attempts.map (Attempt.rewriting w) ∧ r'.events = r.events ∧
      r'.result = r.result := by
  have hseen : Event.isSeen .whole = fun _ => true := by
    funext ev
    cases ev <;> rfl
  have hattempts := h.attempts
  have hevents := h.events
  rw [show Attempt.seen (τ := τ) (ρ := ρ) .whole = id from funext Attempt.seen_whole,
    List.map_id] at hattempts
  rw [hseen, List.filter_true, List.filter_true] at hevents
  exact ⟨hattempts, hevents, h.result⟩

namespace Executor

variable {x x' : Executor} {s s' : Statement} {store store' : Store}

/-- **Executions abreast.** The terms differ in the policy alone, and the other policy concurs with
each verdict. -/
theorem execute_abreast (plan : Plan τ) (cluster : Cluster σ τ ρ) (patience : Option Duration)
    (state : σ) (hterms : x'.terms s' store' = { x.terms s store with policy := c })
    (concurs : ∀ i a, (x.execute s plan cluster patience store state).attempts[i]? = some a →
      c.Concurs view s.query (store'.after
        (((x.execute s plan cluster patience store state).attempts.take (i + 1)).map
          (Attempt.rewriting w))).flags a) :
    (x.execute s plan cluster patience store state).Abreast view w
      (x'.execute s' plan (cluster.rewriting w) patience store' state) := by
  have hquery : s'.query = s.query := congrArg Terms.query hterms
  have hlevel : (x'.terms s' store').consistency = (x.terms s store).consistency := by rw [hterms]
  have hstart : (Cursor.start (x.terms s store).consistency store state).Abreast
      (.start (x'.terms s' store').consistency store' state) := by
    rw [hlevel]
    exact ⟨rfl, rfl, rfl, rfl, rfl, rfl⟩
  rcases x.execute_cases s plan cluster patience store state with
    ⟨item, hr⟩ | ⟨target, run, item, h, hr⟩
  · rcases x'.execute_cases s' plan (cluster.rewriting w) patience store' state with
      ⟨-, hr'⟩ | ⟨target', run', item', -⟩
    · rw [hr, hr', hquery, hlevel]
      exact ⟨rfl, rfl, rfl, hlevel ▸ hstart⟩
    · rw [item] at item'; cases item'
  · rcases x'.execute_cases s' plan (cluster.rewriting w) patience store' state with
      ⟨item', -⟩ | ⟨target', run', item', h', hr'⟩
    · rw [item] at item'; cases item'
    · rw [item] at item'; cases item'
      rw [hr] at concurs
      obtain ⟨run'', h'', hrun⟩ := h.abreast hstart concurs
      have hctx : (⟨x'.terms s' store', patience⟩ : Context) =
          Context.under ⟨x.terms s store, patience⟩ c := by rw [hterms]; rfl
      rw [hctx] at h'
      obtain rfl : run' = run'' := h'.unique h''
      rw [hr, hr', hquery, hlevel, hrun.result]
      refine ⟨hrun.attempts, ?_, rfl, hrun.last⟩
      simp only [List.cons_append, List.filter_cons, List.filter_append, hrun.events]
      rfl

end Executor

end Reattempt
