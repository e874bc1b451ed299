import Reattempt.Proofs.Fallback
import Reattempt.Proofs.Precedence

/-!
# Which flags a decision reads

A decision reads a flag only through a gate that holds it, only for a failure
that is put to gates, and, where the gate goes by declarations, only for a query
that declares nothing. The values of all other flags do not count, for a decision
and for a whole request.

* `Configured.Reads`: a decision reads one of the flags that were changed.
* `Configured.ask_of_not_reads`, `Configured.decide_of_not_reads`: else they do not
  count for it.
* `Configured.not_reads_of_declared`, `Configured.reads_standardBehind_iff`: for a query that
  declares something, and for the default policy.
* `Run.failures`: the failures of a request that are put to its policy.
* `Executor.execute_of_not_reads`: flags that are not read for them do not count for
  the request.
-/

namespace Reattempt

variable {σ τ ρ : Type}

/-- Flags that have the same values, unless they were changed. -/
def Flags.Apart (changed : Flag → Prop) (flags flags' : Flags) : Prop :=
  ∀ f, ¬ changed f → flags' f = flags f

/-- Whether a failure is put to the gates of a policy: under an extended policy, if a write may
stand after it; under a base policy, only after a write timeout. -/
def Configured.isGated (c : Configured) (f : Failure) : Bool :=
  match c with
  | base _ => f.category == .writeTimeout
  | extended _ => f.category.mayHaveApplied

/-- **A decision reads one of the changed flags**: the failure is put to a gate that holds it, and
the query does not declare what the gate goes by. -/
def Configured.Reads (changed : Flag → Prop) (c : Configured) (f : Failure) : Prop :=
  c.isGated f = true ∧ ∃ g ∈ c.policy.gates, changed g.flag ∧
    (g.resolver = .declared → f.query.isIdempotent = none)

/-- A gate that goes by declarations answers a query that declares something without its flag. -/
theorem Gate.admits_of_declared {g : Gate} (hg : g.resolver = .declared) {q : Query}
    (hq : q.isIdempotent ≠ none) (flags flags' : Flags) :
    g.admits flags' q = g.admits flags q := by
  obtain ⟨b, hb⟩ := Option.ne_none_iff_exists'.1 hq
  unfold admits
  rw [hg]
  simp only [Resolver.declared, hb, Option.getD_some]

/-- **A policy depends on the flags through the answers of its gates alone**, and only where a
failure is put to them. -/
theorem Policy.decide_eq_of_admits {flags flags' : Flags} {p : Policy} {f : Failure}
    (h : f.category.mayHaveApplied = true →
      ∀ g ∈ p.gates, g.admits flags' f.query = g.admits flags f.query) :
    p.decide flags' f = p.decide flags f := by
  induction p using Policy.induction with
  | ofLeaf l => rfl
  | under l p ih =>
    rw [decide_under, decide_under]
    cases l with
    | logging =>
      rw [Layer.decide, Layer.decide, ih h]
    | gate g =>
      have hinner := ih fun hf g' hg' => h hf g' (List.mem_cons_of_mem _ hg')
      rw [Layer.decide, Layer.decide, hinner]
      cases hf : f.category.mayHaveApplied with
      | false => rfl
      | true => rw [h hf g List.mem_cons_self]

namespace Configured

variable {changed : Flag → Prop} {flags flags' : Flags} {c : Configured}

theorem admits_of_not_reads {f : Failure} (hflags : flags.Apart changed flags')
    (hreads : ¬ c.Reads changed f) (hgated : c.isGated f = true) {g : Gate}
    (hg : g ∈ c.policy.gates) : g.admits flags' f.query = g.admits flags f.query := by
  by_cases hchanged : changed g.flag
  · have hdeclared : ¬ (g.resolver = .declared → f.query.isIdempotent = none) :=
      fun hopen => hreads ⟨hgated, g, hg, hchanged, hopen⟩
    obtain ⟨hresolver, hquery⟩ := Classical.not_imp.1 hdeclared
    exact Gate.admits_of_declared hresolver hquery flags flags'
  · unfold Gate.admits
    rw [hflags g.flag hchanged]

/-- **Flags that a decision does not read do not count for it.** -/
theorem ask_of_not_reads {f : Failure} (hflags : flags.Apart changed flags')
    (hreads : ¬ c.Reads changed f) : c.ask flags' f = c.ask flags f := by
  have hadmits := fun hgated g hg => admits_of_not_reads (g := g) hflags hreads hgated hg
  cases c with
  | extended p => exact Policy.decide_eq_of_admits hadmits
  | base p =>
    unfold ask
    cases hquorum : f.category.isQuorum with
    | false => rfl
    | true =>
      refine Policy.decide_eq_of_admits fun hf => hadmits ?_
      -- the one quorum category after which a write may stand
      unfold isGated
      cases hc : f.category with
      | writeTimeout => rfl
      | readTimeout | unavailable | connectionError => rw [hc] at hf; cases hf
      | clientTimeout | unexpectedError => rw [hc] at hquorum; cases hquorum

theorem decide_of_not_reads {q : Query} {level : Consistency} {e : AttemptError} {n : Nat}
    (hflags : flags.Apart changed flags')
    (hreads : ∀ f ∈ Failure.ofError? q level n e, ¬ c.Reads changed f) :
    c.decide flags' q level e n = c.decide flags q level e n := by
  unfold decide
  cases hf : Failure.ofError? q level n e with
  | none => rfl
  | some f => exact ask_of_not_reads hflags (hreads f hf)

/-- **A query that declares something is decided on without flags**, where all gates go by
declarations. -/
theorem not_reads_of_declared {f : Failure}
    (hgates : ∀ g ∈ c.policy.gates, g.resolver = .declared) (hf : f.query.isIdempotent ≠ none) :
    ¬ c.Reads changed f := by
  rintro ⟨-, g, hg, -, hopen⟩
  exact hf (hopen (hgates g hg))

/-- **What the default policy reads**: the flag behind which it stands. -/
theorem reads_standardBehind_iff {flag : Flag} {f : Failure} :
    (standardBehind flag).Reads changed f ↔
      changed flag ∧ f.category.mayHaveApplied = true ∧ f.query.isIdempotent = none := by
  constructor
  · rintro ⟨hf, g, hg, hchanged, hopen⟩
    obtain rfl : g = ⟨flag, .declared⟩ := List.mem_singleton.1 hg
    exact ⟨hchanged, hf, hopen rfl⟩
  · rintro ⟨hchanged, hf, hopen⟩
    exact ⟨hf, ⟨flag, .declared⟩, List.mem_singleton.2 rfl, hchanged, fun _ => hopen⟩

/-- Where the default policy reads its flag, the flag decides. -/
theorem ask_standardBehind {flag : Flag} {f : Failure}
    (hf : f.category.mayHaveApplied = true ∧ f.query.isIdempotent = none) (flags : Flags) :
    (standardBehind flag).ask flags f =
      if flags flag = true then Leaf.standard.verdict f else Verdict.stopped := by
  obtain ⟨hcategory, hquery⟩ := hf
  show (Layer.gate ⟨flag, .declared⟩).decide flags Leaf.standard.verdict f = _
  cases hflag : flags flag <;>
    simp [Layer.decide, Gate.admits, Resolver.declared, hcategory, hquery, hflag]

end Configured

/-- The failure that an attempt amounts to, if a policy is asked about it. -/
def Attempt.failure? (query : Query) (a : Attempt τ ρ) : Option Failure :=
  a.outcome.error?.bind (Failure.ofError? query a.consistency a.retryCount)

/-- The failures of a run that its policy is asked about. -/
def Run.failures (query : Query) (r : Run σ τ ρ) : List Failure :=
  r.attempts.filterMap (Attempt.failure? query)

theorem Run.mem_failures {query : Query} {r : Run σ τ ρ} {i : Nat} {a : Attempt τ ρ}
    {e : AttemptError} {v : Verdict} {f : Failure} (ha : r.attempts[i]? = some a)
    (ho : a.outcome = .failed e v)
    (hf : Failure.ofError? query a.consistency a.retryCount e = some f) : f ∈ r.failures query := by
  refine List.mem_filterMap.2 ⟨a, List.mem_of_getElem? ha, ?_⟩
  rw [Attempt.failure?, ho]
  exact hf

theorem Run.query_of_mem_failures {query : Query} {r : Run σ τ ρ} {f : Failure}
    (h : f ∈ r.failures query) : f.query = query := by
  obtain ⟨a, -, ha⟩ := List.mem_filterMap.1 h
  obtain ⟨e, -, hf⟩ := Option.bind_eq_some_iff.1 ha
  obtain ⟨cause, -, rfl⟩ := Option.map_eq_some_iff.1 hf
  rfl

namespace Executor

variable {x : Executor} {s : Statement} {store store' : Store} {changed : Flag → Prop}

/-- **Flags that are not read for the failures of a request do not count for it**, whatever its
calls write in their place. -/
theorem execute_rewriting_of_not_reads {w : List Effect → List Effect} (plan : Plan τ)
    (cluster : Cluster σ τ ρ) (patience : Option Duration) (state : σ)
    (hterms : x.terms s store' = x.terms s store)
    (hflags : ∀ as : List (Attempt τ ρ),
      Flags.Apart changed (store.after as).flags
        (store'.after (as.map (Attempt.rewriting w))).flags)
    (hreads : ∀ f ∈ (x.execute s plan cluster patience store state).failures s.query,
      ¬ (x.terms s store).policy.Reads changed f) :
    (x.execute s plan cluster patience store state).Abreast .whole w
      (x.execute s plan (cluster.rewriting w) patience store' state) := by
  refine execute_abreast (c := (x.terms s store).policy) plan cluster patience state hterms ?_
  intro i a ha e v ho
  rw [x.verdict_eq s plan cluster patience store state ha ho]
  exact congrArg _ (Configured.decide_of_not_reads (hflags _) fun f hf =>
    hreads f (Run.mem_failures ha ho hf))

/-- **Flags that are not read for the failures of a request do not count for it.** -/
theorem execute_of_not_reads (plan : Plan τ) (cluster : Cluster σ τ ρ)
    (patience : Option Duration) (state : σ) (hterms : x.terms s store' = x.terms s store)
    (hflags : store.flags.Apart changed store'.flags)
    (hreads : ∀ f ∈ (x.execute s plan cluster patience store state).failures s.query,
      ¬ (x.terms s store).policy.Reads changed f) :
    (x.execute s plan cluster patience store state).Same
      (x.execute s plan cluster patience store' state) := by
  have hrun : (x.execute s plan cluster patience store state).Abreast .whole id
      (x.execute s plan (cluster.rewriting id) patience store' state) := by
    refine execute_rewriting_of_not_reads plan cluster patience state hterms (fun as => ?_) hreads
    rw [Attempt.map_rewriting_id]
    exact fun f hf => Store.flags_after_congr (hflags f hf) as
  obtain ⟨hattempts, hevents, hresult⟩ := hrun.eq_of_whole
  exact ⟨hattempts.trans (Attempt.map_rewriting_id _), hevents, hresult, hrun.last⟩

end Executor

end Reattempt
