import Mathlib.Logic.Relation
import Reattempt.Proofs.Fallback
import Reattempt.Proofs.Layers

/-!
# Logging layers

Logging layers tell of the answers that pass through them, and do nothing else.
They may be put in and taken out anywhere: a request goes the same way, asks its
leaf about the same failures, and tells the same but for the entries of logging
layers. These can be counted: each layer tells of each answer once, unless the
answer is to give up, or the policy is not asked.

* `Failure.telling`: the entry of a logging layer.
* `Policy.Relogged`: policies that differ in their logging layers alone;
  `Policy.relogged_iff` says so in terms of the other layers.
* `Policy.seen_decide_unlogged`, `Policy.told_decide`: what logging layers do to
  one verdict.
* `Configured.Relogged.seen_decide`, `Configured.told_ask`: the same for
  configured policies.
* `Executor.execute_relogged`, `Executor.execute_told`: what they do to a whole run;
  `Executor.execute_tellings` spells out each entry.
* `logging_transparent`: the law of logging layers.
-/

namespace Reattempt

variable {σ τ ρ : Type}

/-- Everything about a verdict but what logging layers remark. -/
def View.unlogged : View := ⟨true, fun r => decide (r.severity ≠ .info)⟩

/-- What logging layers remark. -/
def Verdict.told (v : Verdict) : List Remark :=
  v.remarks.filter fun r => decide (r.severity = .info)

/-- What logging layers remark about an attempt. -/
def Attempt.told (a : Attempt τ ρ) : List Remark := (a.outcome.verdict?.map Verdict.told).getD []

/-- What an event says of the remarks of logging layers. -/
def Event.told? : Event → Option Remark
  | remarked r => Option.guard (fun r => decide (r.severity = .info)) r
  | _ => none

/-- **The entry with which a logging layer tells of a decision** about a failure: the message
names its category, and the fields are the level, what is known of the cause, the number of retries
and the decision. -/
def Failure.telling (span : Option String) (f : Failure) (d : Decision) : Entry :=
  let told (message : String) (known : List Field) : Entry :=
    .event .info (some message)
      (⟨"consistency", f.consistency.title⟩ :: known ++
        [⟨"retry_count", toString f.retryCount⟩, ⟨"decision", d.text⟩]) span
  match f.cause with
  | .readTimeout required received dataRetrieved =>
    told "Read timeout handled by the retry policy"
      [⟨"required", toString required⟩, ⟨"received", toString received⟩,
       ⟨"data_retrieved", toString dataRetrieved⟩]
  | .writeTimeout writeType required received =>
    told "Write timeout handled by the retry policy"
      [⟨"write_type", writeType.name⟩, ⟨"required", toString required⟩,
       ⟨"received", toString received⟩]
  | .unavailable required alive =>
    told "Unavailable error handled by the retry policy"
      [⟨"required", toString required⟩, ⟨"alive", toString alive⟩]
  | .clientTimeout => told "Client timeout handled by the retry policy" []
  | .connectionError reason =>
    told "Connection error handled by the retry policy" [⟨"error", reason.message⟩]
  | .unexpectedError error =>
    told "Unexpected error handled by the retry policy" [⟨"error", error.message⟩]

/-- The log of a run. -/
def Run.entries (r : Run σ τ ρ) : List Entry := r.events.map Event.entry

theorem Remark.severity_entry (span : Option String) (r : Remark) :
    (r.entry span).severity = r.severity := by
  cases r <;> rfl

theorem Remark.entry_handled (span : Option String) (f : Failure) (d : Decision) :
    (handled f d).entry span = f.telling span d := by
  obtain ⟨query, level, n, cause⟩ := f
  cases cause <;> rfl

theorem Entry.isVisible_info (e : Entry) : e.isVisible .info = decide (e.severity = .info) := by
  unfold isVisible
  cases e.severity <;> rfl

theorem Remark.isVisible_entry (span : Option String) (r : Remark) :
    (r.entry span).isVisible .info = decide (r.severity = .info) := by
  rw [Entry.isVisible_info, severity_entry]

theorem Event.isSeen_unlogged (ev : Event) :
    ev.isSeen .unlogged = !ev.entry.isVisible .info := by
  cases ev with
  | remarked r =>
    rw [show (remarked r).entry = r.entry (some requestSpan) from rfl, Remark.isVisible_entry]
    exact decide_not
  | _ => rfl

/-- The entries of a verdict at the info severity. -/
theorem Verdict.filter_entries (span : Option String) (v : Verdict) :
    (v.remarks.map (Remark.entry span)).filter (·.isVisible .info) =
      v.told.map (Remark.entry span) := by
  rw [List.filter_map]
  unfold told
  congr 2
  funext r
  exact r.isVisible_entry span

/-- The entries of events at the info severity are those of the remarks of logging layers. -/
theorem Event.filter_entries (events : List Event) :
    (events.map entry).filter (·.isVisible .info) =
      (events.filterMap told?).map (Remark.entry (some requestSpan)) := by
  rw [List.filter_map, List.map_filterMap, ← List.filterMap_eq_filter, List.map_filterMap]
  refine List.filterMap_congr fun ev _ => ?_
  cases ev with
  | remarked r =>
    have hentry : (remarked r).entry = r.entry (some requestSpan) := rfl
    by_cases h : r.severity = .info <;>
      simp [told?, Option.guard, hentry, Remark.isVisible_entry, h]
  | _ => rfl

/-! ### Policies -/

namespace Policy

variable {p q : Policy} {flags : Flags} {f : Failure}

/-- How many logging layers a policy has. -/
def loggings (p : Policy) : Nat := p.layers.countP fun l => l.gate?.isNone

theorem loggings_under_logging (p : Policy) : (p.under .logging).loggings = p.loggings + 1 :=
  List.countP_cons_of_pos rfl

theorem loggings_under_gate (g : Gate) (p : Policy) :
    (p.under (.gate g)).loggings = p.loggings :=
  List.countP_cons_of_neg nofun

theorem unlogged_under_logging (p : Policy) : (p.under .logging).unlogged = p.unlogged := rfl

theorem unlogged_under_gate (g : Gate) (p : Policy) :
    (p.under (.gate g)).unlogged = p.unlogged.under (.gate g) := rfl

/-- **A logging layer is put into a policy**, anywhere. -/
inductive PutsLogging : Policy → Policy → Prop where
  | put (outer inner : List Layer) (leaf : Leaf) :
      PutsLogging ⟨outer ++ inner, leaf⟩ ⟨outer ++ .logging :: inner, leaf⟩

/-- **Policies that come from each other** by putting logging layers in and taking them out. -/
def Relogged : Policy → Policy → Prop := Relation.EqvGen PutsLogging

theorem PutsLogging.unlogged_eq (h : p.PutsLogging q) : p.unlogged = q.unlogged := by
  obtain ⟨outer, inner, leaf⟩ := h
  simp [unlogged, Layer.gate?]

theorem PutsLogging.under (l : Layer) (h : p.PutsLogging q) :
    (p.under l).PutsLogging (q.under l) := by
  obtain ⟨outer, inner, leaf⟩ := h
  exact .put (l :: outer) inner leaf

theorem Relogged.under (l : Layer) (h : p.Relogged q) : (p.under l).Relogged (q.under l) := by
  induction h with
  | rel p q h => exact .rel _ _ (h.under l)
  | refl p => exact .refl _
  | symm p q _ ih => exact .symm _ _ ih
  | trans p q r _ _ ih ih' => exact .trans _ _ _ ih ih'

theorem relogged_unlogged (p : Policy) : p.unlogged.Relogged p := by
  induction p using Policy.induction with
  | ofLeaf l => exact .refl _
  | under l p ih =>
    cases l with
    | logging => exact .trans _ _ _ ih (.rel _ _ (.put [] p.layers p.leaf))
    | gate g => exact ih.under _

/-- **They have the same leaf and the same gates in the same order.** -/
theorem relogged_iff : p.Relogged q ↔ p.unlogged = q.unlogged := by
  constructor
  · intro h
    induction h with
    | rel p q h => exact h.unlogged_eq
    | refl p => rfl
    | symm p q _ ih => exact ih.symm
    | trans p q r _ _ ih ih' => exact ih.trans ih'
  · intro h
    have hq := q.relogged_unlogged
    rw [← h] at hq
    exact .trans _ _ _ (.symm _ _ p.relogged_unlogged) hq

end Policy

theorem Remark.severity_of_mem_leaf {l : Leaf} {f : Failure} {r : Remark} (h : r ∈ l.remarks f) :
    r.severity = .debug := by
  cases l with
  | downgrading =>
    simp only [Leaf.remarks] at h
    split at h
    · rw [List.mem_singleton.1 h]; rfl
    · cases h
  | _ => cases h

/-- A logging layer changes nothing but what is told. -/
theorem Verdict.seen_logged (v : Verdict) (f : Failure) :
    (v.logged f).seen .unlogged = v.seen .unlogged := by
  unfold logged
  split
  · rfl
  · simp [seen, View.unlogged, Remark.severity]

/-- A logging layer tells of every answer but giving up. -/
theorem Verdict.told_logged (v : Verdict) (f : Failure) :
    (v.logged f).told =
      if v.decision = .rethrow then v.told else v.told ++ [.handled f v.decision] := by
  unfold logged
  split
  · rfl
  · simp [told, Remark.severity]

namespace Policy

/-- **Logging layers change nothing but what is told.** -/
theorem seen_decide_unlogged (flags : Flags) (p : Policy) (f : Failure) :
    (p.unlogged.decide flags f).seen .unlogged = (p.decide flags f).seen .unlogged := by
  induction p using Policy.induction with
  | ofLeaf l => rfl
  | under l p ih =>
    cases l with
    | logging =>
      rw [unlogged_under_logging, decide_under, Layer.decide, Verdict.seen_logged, ih]
    | gate g =>
      rw [unlogged_under_gate, decide_under, decide_under, Layer.decide, Layer.decide]
      split
      · rfl
      · exact ih

theorem Relogged.seen_decide {p q : Policy} (h : p.Relogged q) (flags : Flags) (f : Failure) :
    (q.decide flags f).seen .unlogged = (p.decide flags f).seen .unlogged := by
  rw [← seen_decide_unlogged, ← relogged_iff.1 h, seen_decide_unlogged]

/-- **Each logging layer tells of each answer once**, unless it is to give up. -/
theorem told_decide (flags : Flags) (p : Policy) (f : Failure) :
    (p.decide flags f).told =
      List.replicate (if (p.decide flags f).decision = .rethrow then 0 else p.loggings)
        (.handled f (p.decide flags f).decision) := by
  induction p using Policy.induction with
  | ofLeaf l =>
    have hnone : ((ofLeaf l).decide flags f).told = [] := by
      refine List.filter_eq_nil_iff.2 fun r hr => ?_
      rw [Remark.severity_of_mem_leaf hr]
      decide
    rw [hnone]
    split <;> rfl
  | under l p ih =>
    cases l with
    | logging =>
      have hd : ((p.under .logging).decide flags f).decision = (p.decide flags f).decision :=
        congrArg Prod.fst (Verdict.answer_logged (p.decide flags f) f)
      rw [hd, loggings_under_logging, decide_under, Layer.decide, Verdict.told_logged, ih]
      split
      · rfl
      · rw [List.replicate_succ']
    | gate g =>
      rw [loggings_under_gate, decide_under, Layer.decide]
      split
      · rfl
      · exact ih

end Policy

/-! ### Configured policies -/

namespace Configured

/-- **Configured policies that differ in their logging layers alone.** -/
inductive Relogged : Configured → Configured → Prop where
  | base {p q : Policy} (h : p.Relogged q) : Relogged (.base p) (.base q)
  | extended {p q : Policy} (h : p.Relogged q) : Relogged (.extended p) (.extended q)

theorem Relogged.seen_decide {c c' : Configured} (h : c.Relogged c') (flags : Flags) (q : Query)
    (level : Consistency) (e : AttemptError) (n : Nat) :
    (c'.decide flags q level e n).seen .unlogged = (c.decide flags q level e n).seen .unlogged := by
  cases h with
  | base h => exact seen_decide_base_congr (fun f _ => h.seen_decide flags f) ..
  | extended h =>
    unfold decide
    cases Failure.ofError? q level n e with
    | none => rfl
    | some f => exact h.seen_decide flags f

/-- How many logging layers tell of the answer to a failure, if it is not to give up: none, where
the policy is not asked. -/
def loggings (c : Configured) (f : Failure) : Nat :=
  match c with
  | base p => if f.category.isQuorum then p.loggings else 0
  | extended p => p.loggings

/-- What logging layers remark on a decision about a failure. -/
def tellings (c : Configured) (f : Failure) (d : Decision) : List Remark :=
  List.replicate (if d = .rethrow then 0 else c.loggings f) (.handled f d)

theorem told_ask (flags : Flags) (c : Configured) (f : Failure) :
    (c.ask flags f).told = c.tellings f (c.ask flags f).decision := by
  cases c with
  | extended p => exact p.told_decide flags f
  | base p =>
    unfold ask tellings loggings
    cases f.category.isQuorum with
    | true => exact p.told_decide flags f
    -- the fixed rule tells nothing at this severity
    | false => simp [fallback, Verdict.told, Remark.severity]

/-- What is told of an answer to an error: nothing, where no category covers it. -/
theorem told_decide (flags : Flags) (c : Configured) (q : Query) (level : Consistency)
    (e : AttemptError) (n : Nat) :
    (c.decide flags q level e n).told =
      ((Failure.ofError? q level n e).map fun f =>
        c.tellings f (c.decide flags q level e n).decision).getD [] := by
  unfold decide
  cases Failure.ofError? q level n e with
  | none => rfl
  | some f => exact c.told_ask flags f

end Configured

/-! ### Requests -/

/-- **The entries of logging layers about an attempt**: one of each layer for the decision about a
failure, unless it is to give up or no category covers the failure. -/
def Attempt.tellings (policy : Configured) (q : Query) (a : Attempt τ ρ) : List Entry :=
  match a.outcome with
  | .failed e v =>
    match Failure.ofError? q a.consistency a.retryCount e with
    | some f =>
      List.replicate (if v.decision = .rethrow then 0 else policy.loggings f)
        (f.telling (some "Request") v.decision)
    | none => []
  | .answered _ | .pending => []

theorem Attempt.events_told (a : Attempt τ ρ) : a.events.filterMap Event.told? = a.told := by
  unfold events told
  cases a.outcome with
  | answered response => rfl
  | pending => rfl
  | failed e v =>
    have hremarks : (v.remarks.map Event.remarked).filterMap Event.told? = v.told := by
      rw [List.filterMap_map, Verdict.told, ← List.filterMap_eq_filter]
      rfl
    simp [List.filterMap_cons, Event.told?, Outcome.verdict?, hremarks]

theorem Result.events_told (result : Result ρ) : result.events.filterMap Event.told? = [] := by
  cases result <;> rfl

namespace Executor

variable (x : Executor) (s : Statement) (plan : Plan τ) (cluster : Cluster σ τ ρ)
  (patience : Option Duration) (store : Store) (state : σ)

/-- **Logging layers change nothing but what is told** of a request. -/
theorem execute_relogged {x' : Executor} {s' : Statement} {c : Configured}
    (h : (x.terms s store).policy.Relogged c)
    (hterms : x'.terms s' store = { x.terms s store with policy := c }) :
    (x.execute s plan cluster patience store state).Abreast .unlogged id
      (x'.execute s' plan cluster patience store state) := by
  refine execute_abreast plan cluster patience state hterms fun i a ha e v ho => ?_
  rw [x.verdict_eq s plan cluster patience store state ha ho, Attempt.map_rewriting_id]
  exact h.seen_decide ..

/-- What logging layers remark on a failed attempt of a request. -/
theorem told_of_failed {i : Nat} {a : Attempt τ ρ} {e : AttemptError} {v : Verdict}
    (ha : (x.execute s plan cluster patience store state).attempts[i]? = some a)
    (ho : a.outcome = .failed e v) :
    a.told = ((Failure.ofError? s.query a.consistency i e).map fun f =>
      (x.terms s store).policy.tellings f v.decision).getD [] := by
  have hv := (x.attempts_lawful s plan cluster patience store state).decided i a e v ha ho
  have htold : a.told = v.told := by simp only [Attempt.told, ho]; rfl
  rw [htold, hv]
  exact (x.terms s store).policy.told_decide ..

/-- What logging layers tell of an attempt of a request. -/
theorem map_entry_told {i : Nat} {a : Attempt τ ρ}
    (ha : (x.execute s plan cluster patience store state).attempts[i]? = some a) :
    a.told.map (Remark.entry (some "Request")) =
      a.tellings (x.terms s store).policy s.query := by
  cases ho : a.outcome with
  | answered response => simp only [Attempt.told, Attempt.tellings, ho]; rfl
  | pending => simp only [Attempt.told, Attempt.tellings, ho]; rfl
  | failed e v =>
    have hcount := ((x.attempts_lawful s plan cluster patience store state).placed i a ha).2
    rw [x.told_of_failed s plan cluster patience store state ha ho]
    simp only [Attempt.tellings, ho, hcount]
    cases Failure.ofError? s.query a.consistency i e with
    | none => rfl
    | some f => simp [Configured.tellings, Remark.entry_handled]

/-- **What logging layers tell of a request**: what they tell of its attempts, in order. -/
theorem execute_told :
    (x.execute s plan cluster patience store state).entries.filter (·.isVisible .info) =
      ((x.execute s plan cluster patience store state).attempts.flatMap Attempt.told).map
        (Remark.entry (some "Request")) := by
  rw [Run.entries, Event.filter_entries]
  congr 1
  rcases x.execute_cases s plan cluster patience store state with
    ⟨-, hr⟩ | ⟨target, run, -, h, hr⟩
  · rw [hr]
    rfl
  · have hrun : run.events.filterMap Event.told? = run.attempts.flatMap Attempt.told := by
      rw [h.filterMap_events (fun _ => rfl) (fun _ _ => rfl) (fun _ => rfl)]
      simp only [Attempt.events_told]
    rw [hr]
    simp [List.filterMap_cons, Event.told?, Result.events_told, hrun]

/-- **The entries of logging layers in the log of a request.** -/
theorem execute_tellings :
    (x.execute s plan cluster patience store state).entries.filter (·.isVisible .info) =
      (x.execute s plan cluster patience store state).attempts.flatMap
        (Attempt.tellings (x.terms s store).policy s.query) := by
  rw [execute_told, List.map_flatMap]
  refine List.flatMap_congr fun a ha => ?_
  obtain ⟨i, hi⟩ := List.mem_iff_getElem?.1 ha
  exact x.map_entry_told s plan cluster patience store state hi

end Executor

/-- **The law of logging layers.** Each of them makes one entry at the info severity for each answer
of the policy below that is not to give up, with the failure and the decision; under a base policy
only for the failures that it is asked about; and nobody else makes such entries. For an error that
no category covers there is none. Policies that come from each other by putting logging layers in
and taking them out, anywhere, make the same attempts with the same questions to the leaf, come to
the same result, and differ in such entries alone. The entries of a request are those for the
answers about its attempts, also where the limit then forbids the retry; each of them carries the
level, what is known of the cause, the number of retries and the decision. -/
theorem logging_transparent (x : Executor) (s : Statement) (plan : Plan τ)
    (cluster : Cluster σ τ ρ) (patience : Option Duration) (store : Store) (state : σ) :
    let terms := x.terms s store
    let r := x.execute s plan cluster patience store state
    (∀ (flags : Flags) (p : Policy) (f : Failure) (span : Option String),
      let told := fun v : Verdict =>
        (v.remarks.map (Remark.entry span)).filter (·.isVisible .info)
      let once := fun v : Verdict =>
        List.replicate (if v.decision = .rethrow then 0 else p.loggings)
          (f.telling span v.decision)
      let v := (Configured.extended p).ask flags f
      let v' := (Configured.base p).ask flags f
      told v = once v ∧
      (f.category.isQuorum = true → told v' = once v') ∧
      (f.category.isQuorum = false → told v' = [])) ∧
    (∀ (flags : Flags) (c : Configured) level n text,
      (∀ why, (c.decide flags s.query level (.db (.rejected why) text) n).remarks = []) ∧
      ∀ code, (c.decide flags s.query level (.db (.other code) text) n).remarks = []) ∧
    (∀ (c : Configured) (x' : Executor) (s' : Statement), terms.policy.Relogged c →
      x'.terms s' store = { terms with policy := c } →
      let r' := x'.execute s' plan cluster patience store state
      r'.attempts.map (Attempt.seen .unlogged) = r.attempts.map (Attempt.seen .unlogged) ∧
      r'.result = r.result ∧
      r'.entries.filter (!·.isVisible .info) = r.entries.filter (!·.isVisible .info)) ∧
    r.entries.filter (·.isVisible .info) =
      r.attempts.flatMap (Attempt.tellings terms.policy s.query) ∧
    r.entries.filter (·.isVisible .info) =
      (r.attempts.flatMap Attempt.told).map (Remark.entry (some "Request")) ∧
    ∀ i a e v, r.attempts[i]? = some a → a.outcome = .failed e v →
      (Failure.ofError? s.query a.consistency i e = none → a.told = []) ∧
      ∀ f, Failure.ofError? s.query a.consistency i e = some f →
        (v.decision = .rethrow → a.told = []) ∧
        (v.decision ≠ .rethrow →
          a.told = List.replicate (terms.policy.loggings f) (.handled f v.decision)) ∧
        (a.suppressed terms.maxRetries = true →
          a.told = List.replicate (terms.policy.loggings f) (.handled f v.decision)) := by
  intro terms r
  refine ⟨fun flags p f span => ?_, fun flags c level n text => ⟨fun _ => rfl, fun _ => rfl⟩,
    fun c x' s' h hterms => ?_, x.execute_tellings s plan cluster patience store state,
    x.execute_told s plan cluster patience store state, ?_⟩
  · intro told once v v'
    refine ⟨?_, fun hquorum => ?_, fun hquorum => ?_⟩
    · simp only [told, once, Verdict.filter_entries, v, Configured.told_ask, Configured.tellings,
        List.map_replicate, Remark.entry_handled]
      rfl
    · simp only [told, once, Verdict.filter_entries, v', Configured.told_ask, Configured.tellings,
        List.map_replicate, Remark.entry_handled, Configured.loggings, hquorum, if_true]
    · simp only [told, Verdict.filter_entries, v', Configured.told_ask, Configured.tellings,
        Configured.loggings, hquorum, Bool.false_eq_true, if_false, ite_self,
        List.replicate_zero, List.map_nil]
  · intro r'
    have hrun := x.execute_relogged s plan cluster patience store state h hterms
    refine ⟨hrun.attempts, hrun.result, ?_⟩
    have hevents := hrun.events
    simp only [funext Event.isSeen_unlogged] at hevents
    rw [Run.entries, Run.entries, List.filter_map, List.filter_map]
    exact congrArg _ hevents
  · intro i a e v ha ho
    have htold : a.told = ((Failure.ofError? s.query a.consistency i e).map fun f =>
        terms.policy.tellings f v.decision).getD [] :=
      x.told_of_failed s plan cluster patience store state ha ho
    refine ⟨fun hf => by rw [htold, hf]; rfl, fun f hf => ?_⟩
    have htellings : a.told = terms.policy.tellings f v.decision := by rw [htold, hf]; rfl
    have hanswered : v.decision ≠ .rethrow →
        a.told = List.replicate (terms.policy.loggings f) (.handled f v.decision) := by
      intro hd
      rw [htellings, Configured.tellings, if_neg hd]
    refine ⟨fun hd => ?_, hanswered, fun hs => hanswered ?_⟩
    · rw [htellings, Configured.tellings, if_pos hd]
      rfl
    · obtain ⟨e', v', ho', hretry, -⟩ := Attempt.suppressed_iff.1 hs
      rw [ho] at ho'
      cases ho'
      intro hd
      rw [hd] at hretry
      cases hretry

/-- Two logging layers tell of a retry that the limit forbids. Without them the request makes the
same attempt. -/
theorem logging_transparent_limited :
    let gate : Layer := .gate ⟨⟨0⟩, .declared⟩
    let bare : Policy := ⟨[gate], .standard⟩
    let policy : Policy := ⟨[.logging, gate, .logging], .standard⟩
    let store := Store.empty.remap ⟨0, none⟩ { Profile.initial ⟨0⟩ with maxRetries := 0 }
    let run := fun p => (Executor.mk ⟨0, none⟩).execute
      ⟨.ofText "SELECT", some (.extended p), none⟩ (.ofList [false]) .breaking none store ()
    policy.Relogged bare ∧ (run bare).attempts.length = (run policy).attempts.length ∧
      (run policy).attempts.map (·.suppressed 0) = [true] ∧
      (run policy).entries.filter (·.isVisible .info) =
        List.replicate 2 (.event .info (some "Connection error handled by the retry policy")
          [⟨"consistency", "LocalQuorum"⟩, ⟨"error", BrokenConnection.channelClosed.message⟩,
           ⟨"retry_count", "0"⟩, ⟨"decision", "RetryNextTarget(None)"⟩] (some "Request")) := by
  intro gate bare policy store run
  have hrelogged : policy.Relogged bare := Policy.relogged_iff.2 rfl
  obtain ⟨-, -, hsame, hentries, -⟩ := logging_transparent ⟨⟨0, none⟩⟩
    ⟨.ofText "SELECT", some (.extended policy), none⟩ (.ofList [false]) .breaking none store ()
  have hlength : (run bare).attempts.length = (run policy).attempts.length := by
    have hseen := congrArg List.length (hsame (.extended bare) ⟨⟨0, none⟩⟩
      ⟨.ofText "SELECT", some (.extended bare), none⟩ (.extended hrelogged) rfl).1
    rwa [List.length_map, List.length_map] at hseen
  have hsuppressed : (run policy).attempts.map (·.suppressed 0) = [true] := by decide +kernel
  refine ⟨hrelogged, hlength, hsuppressed, ?_⟩
  obtain ⟨a, ha⟩ : ∃ a, (run policy).attempts = [a] :=
    List.length_eq_one_iff.1 (by decide +kernel)
  have hfirst : (run policy).attempts.map (fun a =>
      (a.consistency, a.retryCount, a.outcome.error?, a.decision?)) = [(.localQuorum, 0,
        some (.brokenConnection .channelClosed), some (.retryNextTarget none))] := by
    decide +kernel
  rw [ha] at hfirst
  simp only [List.map_cons, List.map_nil, List.cons.injEq, Prod.mk.injEq, and_true] at hfirst
  obtain ⟨hlevel, hcount, herror, hdecision⟩ := hfirst
  obtain ⟨v, ho⟩ := Outcome.error?_eq_some_iff.1 herror
  have hd : v.decision = .retryNextTarget none := by
    rw [Attempt.decision?, ho] at hdecision
    exact Option.some.inj hdecision
  rw [hentries, show (run policy).attempts = _ from ha, List.flatMap_singleton, Attempt.tellings,
    ho]
  simp only [hlevel, hcount, hd]
  rfl

end Reattempt
