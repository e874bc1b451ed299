import Reattempt.Proofs.Lowering
import Reattempt.Proofs.Restraint

/-!
# Serial levels under the downgrading policy

After a read timeout, and where replicas are missing, the downgrading policy
does not lower a serial level. After the timeout of an unlogged batch it does
not look whether the level is serial. So where every error tells the level of
the attempt it answers, a run leaves the serial levels in one way only, and by
its first attempt.

* `AttemptError.reported?`, `Cluster.Reports`: errors that tell the level of the
  attempt.
* `Stock.downgrading_of_isSerial`: the failure after which a serial level is
  lowered.
* `Lawful.serial_succ`, `Lawful.serial_of_lt`: one step of a run, and all of them.
* `Run.LeavesSerial`, `execute_serial_iff`: which requests leave the serial levels.
* `execute_serial_lowered`: one that does.
-/

namespace Reattempt

variable {σ τ ρ : Type}

/-- The level that an error speaks of, if it is one of a missed quorum. -/
def AttemptError.reported? : AttemptError → Option Consistency
  | db (.readTimeout c ..) _ => some c
  | db (.writeTimeout c ..) _ => some c
  | db (.unavailable c ..) _ => some c
  | _ => none

/-- **Every error tells the level of the attempt it answers**, if it tells one. -/
def Cluster.Reports (cluster : Cluster σ τ ρ) : Prop :=
  ∀ state target level d e c, (cluster.call state target level).1.answer = some (d, .error e) →
    e.reported? = some c → c = level

/-- A failure is of the level that its error speaks of, or else of the attempt's own. -/
theorem Failure.consistency_of_ofError? {q : Query} {level : Consistency} {n : Nat}
    {e : AttemptError} {f : Failure} (h : ofError? q level n e = some f) :
    f.consistency = e.reported?.getD level := by
  cases e with
  | db e text => cases e <;> cases h <;> rfl
  | brokenConnection reason => cases h; rfl
  | noFreeStream => cases h; rfl
  | clientTimeout limit => cases h; rfl

namespace Stock

theorem isSerial_of_served? {known : Int} {c : Consistency} (h : served? known = some c) :
    c.isSerial = false := by
  unfold served? at h
  split_ifs at h <;> cases h <;> rfl

/-- A serial level is lowered to what the replicas can serve, if anything. -/
theorem lowered_of_isSerial {asked : Consistency} (hs : asked.isSerial = true) (known : Int) :
    lowered known asked =
      ((served? known).map fun c => .retrySameTarget (some c)).getD .rethrow := by
  have hne : asked ≠ .eachQuorum := by rintro rfl; cases hs
  unfold lowered
  cases served? known with
  | none => exact if_neg hne
  | some c => rfl

/-- **A serial level is lowered after the timeout of an unlogged batch only.** -/
theorem downgrading_of_isSerial {f : Failure} {c : Consistency} (hs : f.consistency.isSerial = true)
    (h : downgrading f = .retrySameTarget (some c)) :
    ∃ required received, f.cause = .writeTimeout .unloggedBatch required received ∧
      1 ≤ received := by
  obtain ⟨query, level, n, cause⟩ := f
  replace hs : level.isSerial = true := hs
  cases cause with
  | readTimeout required received dataRetrieved => simp [downgrading, hs] at h
  | unavailable required alive =>
    simp only [downgrading, hs, if_true] at h
    split at h <;> cases h
  | writeTimeout writeType required received =>
    have hn : ¬ 0 < n := fun hn => by simp [downgrading, hn] at h
    simp only [downgrading, if_neg hn] at h
    cases writeType with
    | unloggedBatch =>
      refine ⟨required, received, rfl, ?_⟩
      rw [lowered_of_isSerial hs] at h
      by_contra hr
      rw [served?_eq_none_iff.2 (by omega)] at h
      cases h
    | simple | batch =>
      simp only at h
      split at h <;> cases h
    | batchLog | counter | cas | view | cdc | other name => cases h
  | clientTimeout | connectionError reason | unexpectedError error => cases h

end Stock

namespace Lawful

variable {terms : Terms} {patience : Option Duration} {plan : Plan τ} {cluster : Cluster σ τ ρ}
  {store : Store} {state : σ} {as : List (Attempt τ ρ)} {i j : Nat} {a b : Attempt τ ρ}

/-- A failed attempt is put to the policy at its own level. -/
theorem consistency_of_reports (h : Lawful terms patience plan cluster store state as)
    (hreports : cluster.Reports) (ha : as[i]? = some a) {e : AttemptError} {v : Verdict}
    (ho : a.outcome = .failed e v) : e.reported?.getD a.consistency = a.consistency := by
  have hreceived : a.outcome.received? = some (.error e) := by rw [ho]; rfl
  rcases (h.answered i a ha).2.answered_or_timedOut hreceived with ⟨d, hcall⟩ | ⟨t, -, ht⟩
  · cases hc : e.reported? with
    | none => rfl
    | some c => exact hreports _ _ _ d e c hcall hc
  · cases ht
    rfl

/-- **One step away from the serial levels**: the first attempt is one to write an unlogged batch,
and it times out after some replica has acknowledged it. -/
theorem serial_succ (h : Lawful terms patience plan cluster store state as)
    (hleaf : terms.policy.policy.leaf = .downgrading) (hreports : cluster.Reports)
    (ha : as[i]? = some a) (hb : as[i + 1]? = some b) (hs : a.consistency.isSerial = true)
    (hs' : b.consistency.isSerial = false) :
    i = 0 ∧ 1 ≤ terms.maxRetries ∧ ∃ v received required text,
      a.outcome = .failed (.db (.writeTimeout a.consistency received required .unloggedBatch) text)
        v ∧ v.decision ≠ .rethrow ∧ 1 ≤ received := by
  obtain ⟨e, v, level, ho, hlimit, hlevel, hmove⟩ := h.followed i a b ha hb
  -- a level is named, or else the next attempt would be serial as well
  obtain ⟨c, rfl⟩ : ∃ c, level = some c := by
    cases level with
    | some c => exact ⟨c, rfl⟩
    | none => rw [hlevel, Option.getD_none, hs] at hs'; cases hs'
  have hdecided := h.decided i a e v ha ho
  have hsparing : terms.policy.Sparing :=
    Leaf.Sparing.configured (hleaf ▸ Leaf.sparing_downgrading)
  rcases hmove with ⟨hd, -⟩ | ⟨hd, -⟩
  · have hne : v.decision ≠ .rethrow := by rw [hd]; nofun
    rw [hdecided] at hd
    rcases terms.policy.decision_decide _ terms.query a.consistency e i with
      hr | ⟨f, hf, ⟨-, hl⟩ | ⟨-, hl⟩⟩
    · rw [hd] at hr; cases hr
    · rw [hd, hleaf] at hl
      have hlevel' : f.consistency = a.consistency :=
        (Failure.consistency_of_ofError? hf).trans (h.consistency_of_reports hreports ha ho)
      obtain ⟨required, received, hcause, hr⟩ :=
        Stock.downgrading_of_isSerial (hlevel' ▸ hs) hl.symm
      obtain ⟨reported, text, rfl⟩ := Failure.of_cause_writeTimeout hf hcause
      have hown : reported = a.consistency := h.consistency_of_reports hreports ha ho
      rw [hown] at ho
      have h0 : i = 0 := hsparing.same _ _ _ _ _ _ hd
      exact ⟨h0, by omega, v, received, required, text, ho, hne, hr⟩
    · exact absurd (hl.symm.trans hd) (Configured.fallbackDecision_ne_retrySameTarget i _)
  · rw [hdecided] at hd
    cases hsparing.next _ _ _ _ _ _ hd

/-- **All steps**: between a serial attempt and a later one that is not, there is such a step. -/
theorem serial_of_lt (h : Lawful terms patience plan cluster store state as)
    (hleaf : terms.policy.policy.leaf = .downgrading) (hreports : cluster.Reports) (hij : i < j)
    (ha : as[i]? = some a) (hb : as[j]? = some b) (hs : a.consistency.isSerial = true)
    (hs' : b.consistency.isSerial = false) :
    i = 0 ∧ 1 ≤ terms.maxRetries ∧ ∃ v received required text,
      a.outcome = .failed (.db (.writeTimeout a.consistency received required .unloggedBatch) text)
        v ∧ v.decision ≠ .rethrow ∧ 1 ≤ received := by
  induction hij generalizing b with
  | refl => exact h.serial_succ hleaf hreports ha hb hs hs'
  | @step k hik ih =>
    have hlt : k < as.length := Nat.lt_of_succ_lt (List.getElem?_eq_some_iff.1 hb).1
    have hprev := List.getElem?_eq_getElem hlt
    cases hk : as[k].consistency.isSerial with
    | false => exact ih hprev hk
    -- a later step leaves the serial levels at the first attempt, which comes before
    | true =>
      obtain ⟨rfl, -⟩ := h.serial_succ hleaf hreports hprev hb hk hs'
      exact absurd hik (Nat.not_succ_le_zero i)

end Lawful

/-- **A run leaves the serial levels**: an attempt at one of them is followed, at once or later, by
an attempt at another level. -/
def Run.LeavesSerial (r : Run σ τ ρ) : Prop :=
  ∃ (i j : Nat) (a b : Attempt τ ρ), i < j ∧ r.attempts[i]? = some a ∧ r.attempts[j]? = some b ∧
    a.consistency.isSerial = true ∧ b.consistency.isSerial = false

/-- A write timeout is put to every policy, however it is configured. -/
theorem Configured.decide_writeTimeout (c : Configured) (flags : Flags) (q : Query)
    (level reported : Consistency) (received required : Int) (writeType : WriteType)
    (text : String) (n : Nat) :
    c.decide flags q level (.db (.writeTimeout reported received required writeType) text) n =
      c.policy.decide flags ⟨q, reported, n, .writeTimeout writeType required received⟩ := by
  cases c <;> rfl

/-- **Which requests leave the serial levels** under the downgrading policy, where errors tell the
level of the attempt they answer. It happens if and only if the first attempt of the request writes
an unlogged batch at a serial level and times out after some replica has acknowledged it, no gate
stops the replay, and the limit allows a retry. After every other failure a serial request stays
serial. -/
theorem execute_serial_iff (x : Executor) (s : Statement) (plan : Plan τ) (cluster : Cluster σ τ ρ)
    (patience : Option Duration) (store : Store) (state : σ)
    (hleaf : (x.terms s store).policy.policy.leaf = .downgrading) (hreports : cluster.Reports) :
    let terms := x.terms s store
    let r := x.execute s plan cluster patience store state
    r.LeavesSerial ↔
      1 ≤ terms.maxRetries ∧ ∃ a v received required text, r.attempts[0]? = some a ∧
        a.consistency.isSerial = true ∧
        a.outcome = .failed
          (.db (.writeTimeout a.consistency received required .unloggedBatch) text) v ∧
        1 ≤ received ∧
        ∀ g ∈ terms.policy.policy.gates,
          g.admits (store.after (r.attempts.take 1)).flags s.query = true := by
  intro terms r
  have hlaw : Lawful terms patience plan cluster store state r.attempts :=
    x.attempts_lawful s plan cluster patience store state
  have hdecided : ∀ a v received required text, r.attempts[0]? = some a → a.outcome = .failed
      (.db (.writeTimeout a.consistency received required .unloggedBatch) text) v →
      v = terms.policy.policy.decide (store.after (r.attempts.take 1)).flags
        ⟨s.query, a.consistency, 0, .writeTimeout .unloggedBatch required received⟩ := by
    intro a v received required text ha ho
    rw [hlaw.decided 0 a _ v ha ho, Configured.decide_writeTimeout]
    rfl
  constructor
  · rintro ⟨i, j, a, b, hij, ha, hb, hs, hs'⟩
    obtain ⟨rfl, hlimit, v, received, required, text, ho, hne, hr⟩ :=
      hlaw.serial_of_lt hleaf hreports hij ha hb hs hs'
    refine ⟨hlimit, a, v, received, required, text, ha, hs, ho, hr, fun g hg => ?_⟩
    -- a gate that does not take the statement for idempotent would have stopped the replay
    rw [← Bool.not_eq_false]
    intro hbars
    refine hne ?_
    rw [hdecided a v received required text ha ho, Policy.decide_of_bars ⟨g, hg, hbars⟩ rfl]
    rfl
  · rintro ⟨hlimit, a, v, received, required, text, ha, hs, ho, hr, hadmits⟩
    obtain ⟨c, hc⟩ : ∃ c, Stock.served? received = some c := by
      refine Option.ne_none_iff_exists'.1 fun hnone => ?_
      have := Stock.served?_eq_none_iff.1 hnone
      omega
    have hd : v.decision = .retrySameTarget (some c) := by
      have hpasses : ∀ f : Failure, f.query = s.query →
          terms.policy.policy.stops (store.after (r.attempts.take 1)).flags f = false := by
        intro f hf
        rw [← Bool.not_eq_true, Policy.stops_iff, hf]
        rintro ⟨-, g, hg, hbars⟩
        rw [hadmits g hg] at hbars
        cases hbars
      have hanswer := terms.policy.policy.answer_decide (store.after (r.attempts.take 1)).flags
        ⟨s.query, a.consistency, 0, .writeTimeout .unloggedBatch required received⟩
      rw [hpasses _ rfl, ← hdecided a v received required text ha ho, hleaf] at hanswer
      have hlowered : v.decision = Stock.lowered received a.consistency :=
        congrArg Prod.fst hanswer
      rw [hlowered, Stock.lowered_of_isSerial hs, hc]
      rfl
    have hnext : 1 < r.attempts.length := hlaw.goesOn 0 a _ v _ ha ho hlimit (.inl hd)
    have hb := List.getElem?_eq_getElem hnext
    obtain ⟨e, v', level, ho', -, hlevel, hmove⟩ := hlaw.followed 0 a _ ha hb
    rw [ho] at ho'
    cases ho'
    obtain rfl : level = some c := by
      rcases hmove with ⟨hd', -⟩ | ⟨hd', -⟩ <;> rw [hd] at hd' <;> cases hd'
      rfl
    refine ⟨0, 1, a, _, Nat.one_pos, ha, hb, hs, ?_⟩
    rw [hlevel, Option.getD_some]
    exact Stock.isSerial_of_served? hc

/-- A target at which an unlogged batch times out once, after one of two acknowledgements. -/
def Cluster.stalling : Cluster Nat Unit Unit where
  address _ := ⟨"10.0.0.1:9042"⟩
  call calls _ level :=
    (⟨[], some (⟨0⟩, match calls with
      | 0 => .error (.db (.writeTimeout level 1 2 .unloggedBatch) "slow")
      | _ => .ok ())⟩, calls + 1)

theorem Cluster.reports_stalling : Cluster.stalling.Reports := by
  intro calls target level d e c hcall hc
  cases calls with
  | zero => cases hcall; cases hc; rfl
  | succ calls => cases hcall

/-- **A serial request that does not stay serial.** -/
theorem execute_serial_lowered :
    Cluster.stalling.Reports ∧
      ((Executor.mk ⟨0, none⟩).execute
        ⟨⟨"BATCH", some .serial, none, none⟩, some (.extended (.ofLeaf .downgrading)), none⟩
        (.ofList [()]) .stalling none .empty 0).attempts.map Attempt.consistency =
          [.serial, .one] :=
  ⟨Cluster.reports_stalling, by decide +kernel⟩

/-- Behind a gate that stops the replay the request stays serial. -/
theorem execute_serial_iff_stalling :
    let policy : Policy := ⟨[.gate ⟨⟨0⟩, .declared⟩], .downgrading⟩
    let s : Statement :=
      ⟨⟨"BATCH", some .serial, some false, none⟩, some (.extended policy), none⟩
    let r := (Executor.mk ⟨0, none⟩).execute s (.ofList [()]) .stalling none .empty 0
    policy.leaf = .downgrading ∧ Cluster.stalling.Reports ∧ ¬ r.LeavesSerial := by
  intro policy s r
  refine ⟨rfl, Cluster.reports_stalling, fun hleaves => ?_⟩
  obtain ⟨-, -, -, -, -, -, -, -, -, -, hadmits⟩ :=
    (execute_serial_iff ⟨⟨0, none⟩⟩ s (.ofList [()]) .stalling none .empty 0 rfl
      Cluster.reports_stalling).1 hleaves
  have hgate : Gate.admits ⟨⟨0⟩, .declared⟩ (Store.empty.after (r.attempts.take 1)).flags
      s.query = true := hadmits _ (List.mem_singleton.2 rfl)
  have hstops : Gate.admits ⟨⟨0⟩, .declared⟩ (Store.empty.after (r.attempts.take 1)).flags
      s.query = false := rfl
  rw [hstops] at hgate
  cases hgate

end Reattempt
