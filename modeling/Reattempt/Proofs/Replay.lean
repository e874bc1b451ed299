import Reattempt.Proofs.Ending
import Reattempt.Proofs.Gates
import Reattempt.Proofs.Succession

/-!
# No harmful replay

Where a gate of the policy does not take the statement for idempotent, an error
after which a write may stand is the end of the request, whatever was retried
before it, and whatever the leaf of the policy would say.

* `Runs.barred`: such an error ends a run.
* `execute_barred`: it ends every execution, and is what the caller gets.
-/

namespace Reattempt

variable {σ τ ρ : Type}

/-- **A barred error ends the run**, and the leaf is not asked about it. -/
theorem Runs.barred {ctx : Context} {plan : Plan τ} {cluster : Cluster σ τ ρ} {target : τ}
    {r : Run σ τ ρ} {store : Store} {state : σ} {p : Policy}
    (h : Runs ctx plan cluster target (.start ctx.terms.consistency store state) r)
    (item : plan.item 0 = some target) (hp : ctx.terms.policy = .extended p)
    {i : Nat} {a : Attempt τ ρ} {e : AttemptError} {v : Verdict} (ha : r.attempts[i]? = some a)
    (ho : a.outcome = .failed e v) (he : e.mayHaveApplied = true)
    (hbars : p.Bars (store.after (r.attempts.take (i + 1))).flags ctx.terms.query) :
    v = Verdict.stopped ∧ i + 1 = r.attempts.length ∧ r.result = .failed (.ofAttempt e) := by
  have hv : v = Verdict.stopped := by
    rw [(h.lawful rfl item).decided i a e v ha ho, hp]
    exact Configured.decide_of_bars hbars he a.consistency i
  exact ⟨hv, h.of_rethrow item ha ho (by rw [hv]; rfl)⟩

/-- **No harmful replay.** Under an extended policy with any layers over any leaf, a failure after
which a write may stand is the last attempt of its request when some gate does not take the
statement for idempotent as the flags are at that moment: the leaf is not asked about it, and the
request fails with this very error. A gate with the usual resolver goes by what the statement
declares, and by its flag where that declares nothing. -/
theorem execute_barred (x : Executor) (s : Statement) (plan : Plan τ) (cluster : Cluster σ τ ρ)
    (patience : Option Duration) (store : Store) (state : σ) {p : Policy}
    (hp : (x.terms s store).policy = .extended p) :
    (∀ g ∈ p.gates, g.resolver = .declared → ∀ flags,
      (g.admits flags s.query = false ↔ s.query.isIdempotent = some false ∨
        (s.query.isIdempotent = none ∧ flags g.flag = false))) ∧
    let r := x.execute s plan cluster patience store state
    ∀ i a e v, r.attempts[i]? = some a → a.outcome = .failed e v → e.mayHaveApplied = true →
      p.Bars (store.after (r.attempts.take (i + 1))).flags s.query →
      i + 1 = r.attempts.length ∧ v.decision = .rethrow ∧ v.consulted = [] ∧
        (∀ t, e = .clientTimeout t → r.result = .failed (.requestTimeout t)) ∧
        ((∀ t, e ≠ .clientTimeout t) → r.result = .failed (.lastAttempt e)) ∧
        r.result ≠ .ignored ∧ ∀ errors, r.result ≠ .failed (.noHostAvailable errors) := by
  refine ⟨fun g _ hg flags => Gate.admits_declared_eq_false_iff hg, ?_⟩
  rcases x.execute_cases s plan cluster patience store state with
    ⟨item, hr⟩ | ⟨target, run, item, h, hr⟩
  · rw [hr]
    intro r i a e v ha
    cases ha
  · rw [hr]
    intro r i a e v ha ho he hbars
    obtain ⟨rfl, hlen, hgiven⟩ := h.barred item hp ha ho he hbars
    refine ⟨hlen, rfl, rfl, ?_, ?_, ?_, ?_⟩
    · rintro t rfl; exact hgiven
    · intro hne
      exact hgiven.trans (by rw [RequestError.ofAttempt_eq_lastAttempt_iff.2 ⟨rfl, hne⟩])
    · intro hi; cases hgiven.symm.trans hi
    · intro errors hl
      have := hgiven.symm.trans hl
      cases e <;> cases this

/-- A gate between two logging layers, over a leaf that always asks for the next target. -/
def Policy.guarded : Policy :=
  ⟨[.logging, .gate ⟨⟨0⟩, .declared⟩, .logging], .custom "Onward" fun _ => .retryNextTarget none⟩

/-- Two targets: the connection to the first one breaks, and a write times out at the second. -/
def Cluster.faltering : Cluster Unit Bool Unit where
  address second := ⟨if second then "10.0.0.2:9042" else "10.0.0.1:9042"⟩
  call _ second level :=
    (⟨[], some (⟨0⟩, .error (if second then .db (.writeTimeout level 1 2 .simple) "slow"
      else .brokenConnection .channelClosed))⟩, ())

/-- The first failure is retried, but not the write timeout. -/
theorem execute_barred_writeTimeout :
    let s : Statement := ⟨.ofText "INSERT", some (.extended .guarded), none⟩
    let r := (Executor.mk ⟨0, none⟩).execute s (.ofList [false, true]) .faltering none .empty ()
    ((Executor.mk ⟨0, none⟩).terms s .empty).policy = .extended .guarded ∧
      Policy.guarded.Bars (Store.empty.after (r.attempts.take 2)).flags s.query ∧
      r.attempts.length = 2 ∧
      r.result = .failed (.lastAttempt (.db (.writeTimeout .localQuorum 1 2 .simple) "slow")) := by
  intro s r
  have herror : r.attempts[1]?.bind (·.outcome.error?) =
      some (.db (.writeTimeout .localQuorum 1 2 .simple) "slow") := by decide +kernel
  obtain ⟨a, ha, he⟩ := Option.bind_eq_some_iff.1 herror
  obtain ⟨v, ho⟩ := Outcome.error?_eq_some_iff.1 he
  have hbars : Policy.guarded.Bars (Store.empty.after (r.attempts.take 2)).flags s.query :=
    ⟨⟨⟨0⟩, .declared⟩, List.mem_singleton.2 rfl, by decide +kernel⟩
  obtain ⟨hlen, -, -, -, hresult, -⟩ :=
    (execute_barred ⟨⟨0, none⟩⟩ s (.ofList [false, true]) .faltering none .empty () rfl).2
      1 a _ v ha ho rfl hbars
  exact ⟨rfl, hbars, hlen.symm, hresult nofun⟩

end Reattempt
