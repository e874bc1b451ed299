import Reattempt.Proofs.Ending
import Reattempt.Proofs.Layers
import Reattempt.Proofs.Succession

/-!
# How errors are put to a policy

An error of an attempt is put to the policy as one failure, in one of the six
categories. After a missed quorum the failure tells the level and the counters
that the server reported, after any other trouble the level of the attempt. A
refusal and an unknown code are not put to anyone: the request fails with them
at once.

* `AttemptError.PutAs`: the failure as which an error is put to a policy.
* `AttemptError.isFinal`: the errors that are not put to anyone.
* `Failure.ofError?_eq_some_iff`, `Failure.ofError?_eq_none_iff`: there is one
  such failure for every other error.
* `Configured.consulted_ask`: the leaf is asked once at most.
* `Classified`, `Configured.classified`: what a configured policy makes of an
  error.
* `execute_classified`: what becomes of the errors of a request.
-/

namespace Reattempt

variable {σ τ ρ : Type}

/-- **The failure as which an error is put to a policy**, after an attempt of a query at a level,
when there have been so many retries. -/
inductive AttemptError.PutAs (q : Query) (level : Consistency) (n : Nat) :
    AttemptError → Failure → Prop where
  | readTimeout (reported : Consistency) (received required : Int) (dataPresent : Bool)
      (text : String) :
      PutAs q level n (.db (.readTimeout reported received required dataPresent) text)
        ⟨q, reported, n, .readTimeout required received dataPresent⟩
  | writeTimeout (reported : Consistency) (received required : Int) (writeType : WriteType)
      (text : String) :
      PutAs q level n (.db (.writeTimeout reported received required writeType) text)
        ⟨q, reported, n, .writeTimeout writeType required received⟩
  | unavailable (reported : Consistency) (required alive : Int) (text : String) :
      PutAs q level n (.db (.unavailable reported required alive) text)
        ⟨q, reported, n, .unavailable required alive⟩
  | clientTimeout (limit : Duration) :
      PutAs q level n (.clientTimeout limit) ⟨q, level, n, .clientTimeout⟩
  | brokenConnection (reason : BrokenConnection) :
      PutAs q level n (.brokenConnection reason) ⟨q, level, n, .connectionError reason⟩
  | noFreeStream : PutAs q level n .noFreeStream ⟨q, level, n, .unexpectedError .noFreeStream⟩
  /-- The coordinator itself is in trouble. -/
  | trouble {error : DbError} (text : String)
      (own : error ∈ [.overloaded, .internalError, .truncateFailed, .bootstrapping]) :
      PutAs q level n (.db error text) ⟨q, level, n, .unexpectedError (.db error text)⟩

/-- Whether an error is one that every attempt would get again: a refusal or an unknown code. -/
def AttemptError.isFinal : AttemptError → Bool
  | db (.rejected _) _ | db (.other _) _ => true
  | _ => false

namespace Failure

variable {q : Query} {level : Consistency} {n : Nat} {e : AttemptError} {f : Failure}

/-- **An error is put to the policy as the failure that it amounts to.** -/
theorem ofError?_eq_some_iff : ofError? q level n e = some f ↔ e.PutAs q level n f := by
  constructor
  · intro h
    cases e with
    | db error text =>
      cases error with
      | readTimeout reported received required dataPresent => cases h; exact .readTimeout ..
      | writeTimeout reported received required writeType => cases h; exact .writeTimeout ..
      | unavailable reported required alive => cases h; exact .unavailable ..
      | overloaded => cases h; exact .trouble text (by decide)
      | internalError => cases h; exact .trouble text (by decide)
      | truncateFailed => cases h; exact .trouble text (by decide)
      | bootstrapping => cases h; exact .trouble text (by decide)
      | rejected reason => cases h
      | other code => cases h
    | brokenConnection reason => cases h; exact .brokenConnection reason
    | noFreeStream => cases h; exact .noFreeStream
    | clientTimeout limit => cases h; exact .clientTimeout limit
  · intro h
    cases h with
    | trouble text own =>
      simp only [List.mem_cons, List.not_mem_nil, or_false] at own
      rcases own with rfl | rfl | rfl | rfl <;> rfl
    | _ => rfl

/-- The errors that are not put to anyone. -/
theorem ofError?_eq_none_iff : ofError? q level n e = none ↔ e.isFinal = true := by
  cases e with
  | db error text => cases error <;> simp [ofError?, cause?, ofDb?, AttemptError.isFinal]
  | brokenConnection reason => simp [ofError?, cause?, AttemptError.isFinal]
  | noFreeStream => simp [ofError?, cause?, AttemptError.isFinal]
  | clientTimeout limit => simp [ofError?, cause?, AttemptError.isFinal]

end Failure

theorem AttemptError.PutAs.unique {q : Query} {level : Consistency} {n : Nat} {e : AttemptError}
    {f f' : Failure} (h : e.PutAs q level n f) (h' : e.PutAs q level n f') : f = f' := by
  rw [← Failure.ofError?_eq_some_iff] at h h'
  exact Option.some.inj (h.symm.trans h')

/-- **What a configured policy makes of an error**: the error is put to it as one failure, and its
answer is the verdict. An error that every attempt would get again is given back. -/
structure Classified (c : Configured) (flags : Flags) (q : Query) (level : Consistency)
    (e : AttemptError) (n : Nat) (v : Verdict) : Prop where
  put : e.isFinal = false → ∃! f, e.PutAs q level n f
  unput : e.isFinal = true → ∀ f, ¬ e.PutAs q level n f
  answered : ∀ f, e.PutAs q level n f → v = c.ask flags f
  /-- The policy answers itself, if it is configured to be asked about the category. -/
  asked : ∀ f, e.PutAs q level n f → c.supportsExtended = true ∨ f.category.isQuorum = true →
    v = c.policy.decide flags f
  /-- Otherwise the fixed rule stands in for it. -/
  unasked : ∀ f, e.PutAs q level n f → c.supportsExtended = false → f.category.isQuorum = false →
    v.decision = Configured.fallbackDecision n ∧ v.consulted = []
  /-- The leaf of the policy is asked once at most, and about this failure. -/
  once : v.consulted = [] ∨ ∃ f, e.PutAs q level n f ∧ v.consulted = [f]
  /-- Nobody is asked about an error that every attempt would get again. -/
  final : e.isFinal = true → v = Verdict.rethrown

namespace Configured

/-- A policy asks its leaf once at most. -/
theorem consulted_ask (flags : Flags) (c : Configured) (f : Failure) :
    (c.ask flags f).consulted = [] ∨ (c.ask flags f).consulted = [f] := by
  have hpolicy : ∀ p : Policy,
      (p.decide flags f).consulted = [] ∨ (p.decide flags f).consulted = [f] := by
    intro p
    have hanswer := p.answer_decide flags f
    split at hanswer
    · exact .inl (congrArg Prod.snd hanswer)
    · exact .inr (congrArg Prod.snd hanswer)
  cases c with
  | extended p => exact hpolicy p
  | base p =>
    unfold ask
    cases f.category.isQuorum with
    | true => exact hpolicy p
    -- the fixed rule asks nobody
    | false => exact .inl rfl

theorem ask_of_asked {flags : Flags} {c : Configured} {f : Failure}
    (h : c.supportsExtended = true ∨ f.category.isQuorum = true) :
    c.ask flags f = c.policy.decide flags f := by
  cases c with
  | extended p => rfl
  | base p =>
    have hquorum : f.category.isQuorum = true := h.resolve_left Bool.false_ne_true
    simp only [ask, hquorum, if_true]
    rfl

theorem ask_of_unasked {flags : Flags} {c : Configured} {f : Failure}
    (hbase : c.supportsExtended = false) (hquorum : f.category.isQuorum = false) :
    c.ask flags f = fallback f := by
  cases c with
  | extended p => cases hbase
  | base p => simp only [ask, hquorum, Bool.false_eq_true, if_false]

theorem decide_of_putAs {q : Query} {level : Consistency} {n : Nat} {e : AttemptError}
    {f : Failure} (h : e.PutAs q level n f) (flags : Flags) (c : Configured) :
    c.decide flags q level e n = c.ask flags f := by
  simp only [decide, Failure.ofError?_eq_some_iff.2 h]

theorem decide_of_isFinal {e : AttemptError} (h : e.isFinal = true) (flags : Flags)
    (c : Configured) (q : Query) (level : Consistency) (n : Nat) :
    c.decide flags q level e n = Verdict.rethrown := by
  simp only [decide, Failure.ofError?_eq_none_iff.2 h]

/-- **Every configured policy classifies every error so.** -/
theorem classified (c : Configured) (flags : Flags) (q : Query) (level : Consistency)
    (e : AttemptError) (n : Nat) :
    Classified c flags q level e n (c.decide flags q level e n) := by
  constructor
  case put =>
    intro hfinal
    have hsome : Failure.ofError? q level n e ≠ none := by
      intro hnone
      rw [Failure.ofError?_eq_none_iff.1 hnone] at hfinal
      cases hfinal
    obtain ⟨f, hf⟩ := Option.ne_none_iff_exists'.1 hsome
    have hput := Failure.ofError?_eq_some_iff.1 hf
    exact ⟨f, hput, fun f' hput' => hput'.unique hput⟩
  case unput =>
    intro hfinal f hput
    have hnone : Failure.ofError? q level n e = none := Failure.ofError?_eq_none_iff.2 hfinal
    rw [Failure.ofError?_eq_some_iff.2 hput] at hnone
    cases hnone
  case answered => exact fun f hput => decide_of_putAs hput flags c
  case asked =>
    intro f hput hasked
    rw [decide_of_putAs hput, ask_of_asked hasked]
  case unasked =>
    intro f hput hbase hquorum
    have hn : f.retryCount = n := by cases hput <;> rfl
    rw [decide_of_putAs hput, ask_of_unasked hbase hquorum, ← hn]
    exact ⟨rfl, rfl⟩
  case once =>
    cases hf : Failure.ofError? q level n e with
    | none =>
      rw [decide_of_isFinal (Failure.ofError?_eq_none_iff.1 hf)]
      exact .inl rfl
    | some f =>
      have hput := Failure.ofError?_eq_some_iff.1 hf
      rw [decide_of_putAs hput]
      exact (c.consulted_ask flags f).imp_right fun hone => ⟨f, hput, hone⟩
  case final => exact fun hfinal => decide_of_isFinal hfinal flags c q level n

end Configured

/-- **The errors of every request.** Each one is put to the policy as one failure, and the answer of
the policy is the verdict, under every policy and however it is configured. A refusal or an unknown
code is put to nobody: it is the last error of its request, which fails with it, whatever the
policy, the plan and the limit are. -/
theorem execute_classified (x : Executor) (s : Statement) (plan : Plan τ) (cluster : Cluster σ τ ρ)
    (patience : Option Duration) (store : Store) (state : σ) :
    let terms := x.terms s store
    let r := x.execute s plan cluster patience store state
    (∀ (c : Configured) (flags : Flags) (q : Query) (level : Consistency) (e : AttemptError)
      (n : Nat), Classified c flags q level e n (c.decide flags q level e n)) ∧
    ∀ i a e v, r.attempts[i]? = some a → a.outcome = .failed e v →
      Classified terms.policy (store.after (r.attempts.take (i + 1))).flags s.query a.consistency
        e i v ∧
      (e.isFinal = true → i + 1 = r.attempts.length ∧ r.result = .failed (.lastAttempt e)) := by
  intro terms r
  refine ⟨Configured.classified, fun i a e v ha ho => ?_⟩
  have hlaw := x.attempts_lawful s plan cluster patience store state
  have hv := hlaw.decided i a e v ha ho
  have hclassified : Classified terms.policy (store.after (r.attempts.take (i + 1))).flags s.query
      a.consistency e i v := by
    rw [hv]
    exact Configured.classified ..
  refine ⟨hclassified, fun hfinal => ?_⟩
  have hd : v.decision = .rethrow := by rw [hclassified.final hfinal]; rfl
  obtain ⟨hlast, hresult⟩ := x.of_rethrow s plan cluster patience store state ha ho hd
  have hgiven : RequestError.ofAttempt e = .lastAttempt e := by
    rw [RequestError.ofAttempt_eq_lastAttempt_iff]
    refine ⟨rfl, fun t ht => ?_⟩
    rw [ht] at hfinal
    cases hfinal
  rw [hgiven] at hresult
  exact ⟨hlast, hresult⟩

end Reattempt
