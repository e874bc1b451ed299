import Reattempt.Proofs.Abreast
import Reattempt.Proofs.Ending

/-!
# Base policies and the fixed rule

A base policy is not asked about troubles outside the quorum logic. The fixed
rule that stands in for it counts all retries of a request, whatever they were
made for: so it grants one retry at most, and only to the first attempt.

* `AttemptError.isExtended`: the errors that a base policy is not asked about.
* `Configured.decide_base_of_isExtended`: the fixed rule answers them.
* `FallsBack`: what such an error means for its request.
* `execute_fallback`: it means this for every one under a base policy.
-/

namespace Reattempt

variable {σ τ ρ : Type}

/-- The errors that only extended policies are asked about. -/
def AttemptError.isExtended : AttemptError → Bool
  | clientTimeout _ | brokenConnection _ | noFreeStream
  | db .overloaded _ | db .internalError _ | db .truncateFailed _ | db .bootstrapping _ => true
  | db (.readTimeout ..) _ | db (.writeTimeout ..) _ | db (.unavailable ..) _
  | db (.rejected _) _ | db (.other _) _ => false

/-- Such an error is a failure of one of the extended categories. -/
theorem Failure.ofError?_of_isExtended {e : AttemptError} (h : e.isExtended = true) (q : Query)
    (level : Consistency) (n : Nat) :
    ∃ f, ofError? q level n e = some f ∧ f.category.isQuorum = false ∧ f.retryCount = n := by
  cases e with
  | db e text => cases e <;> first | exact ⟨_, rfl, rfl, rfl⟩ | cases h
  | brokenConnection reason => exact ⟨_, rfl, rfl, rfl⟩
  | noFreeStream => exact ⟨_, rfl, rfl, rfl⟩
  | clientTimeout limit => exact ⟨_, rfl, rfl, rfl⟩

namespace Configured

/-- **The fixed rule asks no policy**: its verdict is the same for all of them. -/
theorem decide_base_of_isExtended {e : AttemptError} (h : e.isExtended = true) (q : Query)
    (level : Consistency) (n : Nat) :
    ∃ f, f.retryCount = n ∧ ∀ p flags, (base p).decide flags q level e n = fallback f := by
  obtain ⟨f, hf, hquorum, hn⟩ := Failure.ofError?_of_isExtended h q level n
  refine ⟨f, hn, fun p flags => ?_⟩
  simp only [decide, hf, ask, hquorum, Bool.false_eq_true, if_false]

theorem fallbackDecision_eq_retryNextTarget_iff {n : Nat} {level : Option Consistency} :
    fallbackDecision n = .retryNextTarget level ↔ n = 0 ∧ level = none := by
  unfold fallbackDecision
  split <;> simp [*, eq_comm]

theorem fallbackDecision_ne_retrySameTarget (n : Nat) (level : Option Consistency) :
    fallbackDecision n ≠ .retrySameTarget level := by
  unfold fallbackDecision
  split <;> simp

/-- Base policies that look alike on the quorum categories look alike. -/
theorem seen_decide_base_congr {view : View} {flags : Flags} {p p' : Policy}
    (h : ∀ f, f.category.isQuorum = true →
      (p'.decide flags f).seen view = (p.decide flags f).seen view)
    (q : Query) (level : Consistency) (e : AttemptError) (n : Nat) :
    ((base p').decide flags q level e n).seen view =
      ((base p).decide flags q level e n).seen view := by
  unfold decide
  cases Failure.ofError? q level n e with
  | none => rfl
  | some f =>
    cases hquorum : f.category.isQuorum with
    | true => simpa only [ask, hquorum, if_true] using h f hquorum
    | false => simp only [ask, hquorum, Bool.false_eq_true, if_false]

end Configured

/-- **What an error that a base policy is not asked about means** for its request. -/
structure FallsBack (terms : Terms) (plan : Plan τ) (cluster : Cluster σ τ ρ) (r : Run σ τ ρ)
    (i : Nat) (a : Attempt τ ρ) (e : AttemptError) (v : Verdict) : Prop where
  /-- The policy is not asked, and another one would make no difference. -/
  unasked : v.consulted = [] ∧ ∀ p flags,
    (Configured.base p).decide flags terms.query a.consistency e i = v
  /-- Another attempt is made after the first one only, if the limit allows it and the plan has a
  second target. -/
  followed : i + 1 < r.attempts.length ↔ i = 0 ∧ 1 ≤ terms.maxRetries ∧ (plan.item 1).isSome
  /-- It goes to this target, at the same level. -/
  next : ∀ b, r.attempts[i + 1]? = some b →
    b.position = 1 ∧ plan.item 1 = some b.target ∧ b.consistency = a.consistency
  /-- If there is none, the error is listed alone. -/
  exhausted : i = 0 → 1 ≤ terms.maxRetries → plan.item 1 = none →
    r.result = .failed (.noHostAvailable [(cluster.address a.target, e)])
  /-- In all other cases the error is given back. -/
  given : i ≠ 0 ∨ terms.maxRetries = 0 →
    (∀ t, e = .clientTimeout t → r.result = .failed (.requestTimeout t)) ∧
      ((∀ t, e ≠ .clientTimeout t) → r.result = .failed (.lastAttempt e))

/-- A failure that the fixed rule answers leads on from the first attempt only. -/
theorem Lawful.next_of_fallback {terms : Terms} {patience : Option Duration} {plan : Plan τ}
    {cluster : Cluster σ τ ρ} {store : Store} {state : σ} {as : List (Attempt τ ρ)}
    (h : Lawful terms patience plan cluster store state as) {i : Nat} {a b : Attempt τ ρ}
    {e : AttemptError} {v : Verdict} (ha : as[i]? = some a) (ho : a.outcome = .failed e v)
    (hd : v.decision = Configured.fallbackDecision i) (hb : as[i + 1]? = some b) :
    i = 0 ∧ 1 ≤ terms.maxRetries ∧ b.position = 1 ∧ plan.item 1 = some b.target ∧
      b.consistency = a.consistency := by
  obtain ⟨e', v', level, ho', hlimit, hlevel, hmove⟩ := h.followed i a b ha hb
  rw [ho] at ho'
  cases ho'
  rw [hd] at hmove
  rcases hmove with ⟨hsame, -⟩ | ⟨honward, hposition⟩
  · exact absurd hsame (Configured.fallbackDecision_ne_retrySameTarget i level)
  obtain ⟨rfl, rfl⟩ := Configured.fallbackDecision_eq_retryNextTarget_iff.1 honward
  have hfirst : a.position = 0 := h.position 0 a ha
  rw [hfirst] at hposition
  have item := (h.placed _ b hb).1
  rw [hposition] at item
  exact ⟨rfl, by omega, hposition, item, hlevel⟩

/-- **What the fixed rule makes of an error**, in any execution. -/
theorem Executor.fallsBack (x : Executor) (s : Statement) (plan : Plan τ) (cluster : Cluster σ τ ρ)
    (patience : Option Duration) (store : Store) (state : σ) {p : Policy}
    (hp : (x.terms s store).policy = .base p) {i : Nat} {a : Attempt τ ρ} {e : AttemptError}
    {v : Verdict} (ha : (x.execute s plan cluster patience store state).attempts[i]? = some a)
    (ho : a.outcome = .failed e v) (he : e.isExtended = true) :
    FallsBack (x.terms s store) plan cluster (x.execute s plan cluster patience store state)
      i a e v := by
  have hlaw := x.attempts_lawful s plan cluster patience store state
  obtain ⟨f, rfl, hfixed⟩ :=
    Configured.decide_base_of_isExtended he (x.terms s store).query a.consistency i
  obtain rfl : v = Configured.fallback f := by
    rw [hlaw.decided _ a e v ha ho, hp, hfixed]
  have hcount : a.retryCount = f.retryCount := (hlaw.placed _ a ha).2
  have hlt := (List.getElem?_eq_some_iff.1 ha).1
  have hfollowed : f.retryCount + 1 <
      (x.execute s plan cluster patience store state).attempts.length ↔
        f.retryCount = 0 ∧ 1 ≤ (x.terms s store).maxRetries ∧ (plan.item 1).isSome := by
    constructor
    · intro hnext
      obtain ⟨h0, hlimit, -, item, -⟩ :=
        hlaw.next_of_fallback ha ho rfl (List.getElem?_eq_getElem hnext)
      exact ⟨h0, hlimit, by rw [item]; rfl⟩
    · rintro ⟨h0, hlimit, item⟩
      have hfirst : a.position = 0 := hlaw.position 0 a (h0 ▸ ha)
      refine hlaw.goesOn _ a e _ none ha ho (by omega) (.inr ⟨?_, by rwa [hfirst]⟩)
      exact Configured.fallbackDecision_eq_retryNextTarget_iff.2 ⟨h0, rfl⟩
  have hlast : ¬ (f.retryCount = 0 ∧ 1 ≤ (x.terms s store).maxRetries ∧ (plan.item 1).isSome) →
      f.retryCount + 1 = (x.execute s plan cluster patience store state).attempts.length := by
    intro hno
    have hend := mt hfollowed.1 hno
    omega
  constructor
  case unasked => exact ⟨rfl, hfixed⟩
  case followed => exact hfollowed
  case next =>
    intro b hb
    obtain ⟨-, -, hposition, item, hlevel⟩ := hlaw.next_of_fallback ha ho rfl hb
    exact ⟨hposition, item, hlevel⟩
  case exhausted =>
    intro h0 hlimit item
    have hlength := hlast (by simp [item])
    have hleaves : a.leaves (x.terms s store).maxRetries = true :=
      Attempt.leaves_iff.2 ⟨e, _, none, ho,
        Configured.fallbackDecision_eq_retryNextTarget_iff.2 ⟨h0, rfl⟩, by omega⟩
    -- the only attempt leaves the only target
    obtain ⟨b, hb⟩ := List.length_eq_one_iff.1 (hlength.symm.trans (by rw [h0]))
    obtain ⟨-, hresult⟩ :=
      (x.execute_settles s plan cluster patience store state ha hlength).of_leaves hleaves
    rw [h0, hb] at ha
    cases ha
    rw [hresult, hb, List.filterMap_cons, Attempt.left?_eq_some hleaves ho]
    rfl
  case given =>
    intro hcase
    have hlength := hlast fun ⟨h0, hlimit, _⟩ => by omega
    have htells : (Configured.fallback f).decision = .rethrow ∨
        ((Configured.fallback f).decision.isRetry = true ∧
          (x.terms s store).maxRetries ≤ a.retryCount) := by
      by_cases h0 : f.retryCount = 0
      · refine .inr ⟨?_, by omega⟩
        show (Configured.fallbackDecision f.retryCount).isRetry = true
        rw [h0]
        rfl
      · exact .inl (if_neg h0)
    have hresult :=
      (x.execute_settles s plan cluster patience store state ha hlength).unique (.given ho htells)
    refine ⟨fun t ht => ?_, fun hne => ?_⟩
    · rw [hresult, RequestError.ofAttempt_eq_requestTimeout_iff.2 ht]
    · rw [hresult, RequestError.ofAttempt_eq_lastAttempt_iff.2 ⟨rfl, hne⟩]

/-- **The fixed rule in every execution.** Under a base policy, whatever it is, an error outside the
quorum logic is not put to it. It leads to one more attempt, at the second target and the same
level, if it is the first error of the request, and ends the request in every other case. So base
policies that look alike on the quorum categories make runs that look alike. -/
theorem execute_fallback (x : Executor) (s : Statement) (plan : Plan τ) (cluster : Cluster σ τ ρ)
    (patience : Option Duration) (store : Store) (state : σ) {p : Policy}
    (hp : (x.terms s store).policy = .base p) :
    let r := x.execute s plan cluster patience store state
    (∀ i a e v, r.attempts[i]? = some a → a.outcome = .failed e v → e.isExtended = true →
      FallsBack (x.terms s store) plan cluster r i a e v) ∧
    ∀ (view : View) (p' : Policy) (x' : Executor) (s' : Statement),
      x'.terms s' store = { x.terms s store with policy := .base p' } →
      (∀ flags f, f.category.isQuorum = true →
        (p'.decide flags f).seen view = (p.decide flags f).seen view) →
      r.Abreast view id (x'.execute s' plan cluster patience store state) := by
  intro r
  refine ⟨fun i a e v => x.fallsBack s plan cluster patience store state hp, ?_⟩
  intro view p' x' s' hterms halike
  refine Executor.execute_abreast plan cluster patience state hterms fun i a ha e v ho => ?_
  rw [x.verdict_eq s plan cluster patience store state ha ho, hp, Attempt.map_rewriting_id]
  exact Configured.seen_decide_base_congr (halike _) ..

/-- Targets to which every connection breaks. -/
def Cluster.breaking : Cluster Unit Bool Unit where
  address second := ⟨if second then "10.0.0.2:9042" else "10.0.0.1:9042"⟩
  call _ _ _ := (⟨[], some (⟨0⟩, .error (.brokenConnection .channelClosed))⟩, ())

/-- The standard policy would go on to the third target, but as a base policy it is not asked. -/
theorem execute_fallback_brokenConnection :
    let s : Statement := ⟨.ofText "SELECT", some (.base (.ofLeaf .standard)), none⟩
    let plan : Plan Bool := .ofList [false, true, false]
    let r := (Executor.mk ⟨0, none⟩).execute s plan .breaking none .empty ()
    ((Executor.mk ⟨0, none⟩).terms s .empty).policy = .base (.ofLeaf .standard) ∧
      r.attempts.length = 2 ∧
      r.result = .failed (.lastAttempt (.brokenConnection .channelClosed)) := by
  intro s plan r
  have herror : r.attempts[1]?.bind (·.outcome.error?) =
      some (.brokenConnection .channelClosed) := by decide +kernel
  obtain ⟨a, ha, he⟩ := Option.bind_eq_some_iff.1 herror
  obtain ⟨v, ho⟩ := Outcome.error?_eq_some_iff.1 he
  have hback :=
    (execute_fallback ⟨⟨0, none⟩⟩ s plan .breaking none .empty () rfl).1 1 a _ v ha ho rfl
  have hlt : 1 < r.attempts.length := (List.getElem?_eq_some_iff.1 ha).1
  have hnot : ¬ 2 < r.attempts.length := fun hnext => by
    obtain ⟨h0, -⟩ := hback.followed.1 hnext
    cases h0
  exact ⟨rfl, by omega, (hback.given (.inl Nat.one_ne_zero)).2 nofun⟩

end Reattempt
