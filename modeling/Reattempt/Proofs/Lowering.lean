import Mathlib.Order.Bounds.Defs
import Reattempt.Proofs.Sparing

/-!
# Lowered levels

After some failures the downgrading policy asks for another attempt at the level
that the replicas known to work can serve. It picks the strongest one among the
levels one, two and three. This is what the replicas can do, and not what was
asked of them: where more of them are known to work than were required, the
level that is picked can be a stricter one.

* `Consistency.replicas?`, `Consistency.Strongest`: what levels need, and the
  strongest one that some replicas can serve.
* `Stock.served?_eq_some_iff`, `Stock.lowered_eq_retrySameTarget_iff`: a lowered
  level is the strongest one.
* `Lowering`: the failures after which the level is lowered, with the number of
  replicas that counts.
* `Lowering.downgrading_eq`, `Lowering.of_level?`: the level is lowered after
  these failures, and named after no other.
* `downgrading_strongest`: the level that is named, after any failure.
* `downgrading_stricter_iff`: when it asks for more than what failed.
-/

namespace Reattempt

/-- How many replicas a level needs, where the level itself names the number. -/
def Consistency.replicas? : Consistency → Option Nat
  | one => some 1
  | two => some 2
  | three => some 3
  | _ => none

/-- **The strongest level that so many replicas can serve**, among those that name a number. -/
def Consistency.Strongest (known : Int) (c : Consistency) : Prop :=
  ∃ n, c.replicas? = some n ∧
    IsGreatest {m : Nat | (∃ d : Consistency, d.replicas? = some m) ∧ (m : Int) ≤ known} n

/-- Whether a level that names a number of replicas needs no more than so many. -/
def Consistency.Within (replicas : Int) (c : Consistency) : Prop :=
  ∃ n : Nat, c.replicas? = some n ∧ (n : Int) ≤ replicas

namespace Consistency

theorem replicas?_eq_some_iff {c : Consistency} {n : Nat} :
    c.replicas? = some n ↔ (c = one ∧ n = 1) ∨ (c = two ∧ n = 2) ∨ (c = three ∧ n = 3) := by
  cases c <;> simp [replicas?, eq_comm]

/-- The numbers that levels name. -/
theorem exists_replicas?_iff {m : Nat} :
    (∃ d : Consistency, d.replicas? = some m) ↔ 1 ≤ m ∧ m ≤ 3 := by
  constructor
  · rintro ⟨d, hd⟩
    have h := replicas?_eq_some_iff.1 hd
    omega
  · intro h
    obtain rfl | rfl | rfl : m = 1 ∨ m = 2 ∨ m = 3 := by omega
    · exact ⟨one, rfl⟩
    · exact ⟨two, rfl⟩
    · exact ⟨three, rfl⟩

/-- The strongest level names the number of replicas itself, or three if there are more. -/
theorem strongest_iff {known : Int} {c : Consistency} :
    c.Strongest known ↔ 1 ≤ known ∧ ∃ n : Nat, c.replicas? = some n ∧ (n : Int) = min known 3 := by
  constructor
  · rintro ⟨n, hn, ⟨hnamed, hle⟩, hgreatest⟩
    have hbounds := exists_replicas?_iff.1 hnamed
    refine ⟨by omega, n, hn, ?_⟩
    -- a number in between would be named by a stronger level
    by_contra hne
    have hnext : n + 1 ≤ n :=
      hgreatest ⟨exists_replicas?_iff.2 (by omega), by omega⟩
    omega
  · rintro ⟨hpos, n, hn, hmin⟩
    refine ⟨n, hn, ⟨⟨c, hn⟩, by omega⟩, ?_⟩
    rintro m ⟨hnamed, hle⟩
    have hbounds := exists_replicas?_iff.1 hnamed
    omega

theorem exists_strongest {known : Int} (h : 1 ≤ known) : ∃ c : Consistency, c.Strongest known := by
  have hnamed : 1 ≤ (min known 3).toNat ∧ (min known 3).toNat ≤ 3 := by omega
  obtain ⟨c, hc⟩ := exists_replicas?_iff.2 hnamed
  exact ⟨c, strongest_iff.2 ⟨h, _, hc, by omega⟩⟩

theorem Strongest.within_iff {known replicas : Int} {c : Consistency} (h : c.Strongest known) :
    c.Within replicas ↔ min known 3 ≤ replicas := by
  obtain ⟨-, n, hn, hmin⟩ := strongest_iff.1 h
  constructor
  · rintro ⟨m, hm, hle⟩
    rw [hn] at hm
    cases hm
    omega
  · intro hle
    exact ⟨n, hn, by omega⟩

end Consistency

namespace Stock

theorem served?_eq_none_iff {known : Int} : served? known = none ↔ known ≤ 0 := by
  unfold served?
  split_ifs <;> simp <;> omega

/-- **The level that is served is the strongest one.** -/
theorem served?_eq_some_iff {known : Int} {c : Consistency} :
    served? known = some c ↔ c.Strongest known := by
  rw [Consistency.strongest_iff]
  constructor
  · intro h
    unfold served? at h
    split_ifs at h with h3 h2 h1
    · cases h; exact ⟨by omega, 3, rfl, by omega⟩
    · cases h; exact ⟨by omega, 2, rfl, by omega⟩
    · cases h; exact ⟨by omega, 1, rfl, by omega⟩
  · rintro ⟨hpos, n, hn, hmin⟩
    unfold served?
    obtain ⟨rfl, rfl⟩ | ⟨rfl, rfl⟩ | ⟨rfl, rfl⟩ := Consistency.replicas?_eq_some_iff.1 hn
    · rw [if_neg (by omega), if_neg (by omega), if_pos (by omega)]
    · rw [if_neg (by omega), if_pos (by omega)]
    · rw [if_pos (by omega)]

/-- **A lowered level** is the strongest one, or the level one where no replica is known to work but
the count is local to a datacenter. -/
theorem lowered_eq_retrySameTarget_iff {known : Int} {asked c : Consistency} :
    lowered known asked = .retrySameTarget (some c) ↔
      c.Strongest known ∨ (known ≤ 0 ∧ asked = .eachQuorum ∧ c = .one) := by
  rw [← served?_eq_some_iff, ← served?_eq_none_iff]
  unfold lowered
  cases served? known with
  | some d => simp
  | none =>
    by_cases ha : asked = .eachQuorum
    · simp [ha, eq_comm]
    · simp [ha]

theorem lowered_eq_rethrow_iff {known : Int} {asked : Consistency} :
    lowered known asked = .rethrow ↔ known ≤ 0 ∧ asked ≠ .eachQuorum := by
  rw [← served?_eq_none_iff]
  unfold lowered
  cases served? known with
  | some d => simp
  | none => by_cases ha : asked = .eachQuorum <;> simp [ha]

end Stock

/-- **The failures after which the level is lowered**, with the number of replicas known to work:
the first one of a request, if it is a read with too few responses or a lack of replicas at a level
that is not serial, or the timeout of an unlogged batch. -/
inductive Lowering (f : Failure) : Int → Prop where
  | readTimeout {required received : Int} {dataRetrieved : Bool} (first : f.retryCount = 0)
      (cause : f.cause = .readTimeout required received dataRetrieved)
      (plain : f.consistency.isSerial = false) (missing : received < required) :
      Lowering f received
  | unloggedBatch {required received : Int} (first : f.retryCount = 0)
      (cause : f.cause = .writeTimeout .unloggedBatch required received) : Lowering f received
  | unavailable {required alive : Int} (first : f.retryCount = 0)
      (cause : f.cause = .unavailable required alive) (plain : f.consistency.isSerial = false) :
      Lowering f alive

namespace Lowering

variable {f : Failure} {known : Int}

/-- **After such a failure the level is lowered.** -/
theorem downgrading_eq (h : Lowering f known) :
    Stock.downgrading f = Stock.lowered known f.consistency := by
  unfold Stock.downgrading
  cases h with
  | readTimeout first cause plain missing => simp [first, cause, plain, missing]
  | unloggedBatch first cause => simp [first, cause]
  | unavailable first cause plain => simp [first, cause, plain]

/-- **After no other failure a level is named.** -/
theorem of_level? {c : Consistency} (h : (Stock.downgrading f).level? = some c) :
    ∃ known, Lowering f known := by
  have hfirst : f.retryCount = 0 := by
    rcases Stock.downgrading_cases f with ⟨-, hd⟩ | ⟨-, hd | ⟨h0, -⟩⟩
    · rw [hd] at h; cases h
    · rw [hd] at h; cases h
    · exact h0
  have hn : ¬ 0 < f.retryCount := by omega
  unfold Stock.downgrading at h
  cases hcause : f.cause with
  | readTimeout required received dataRetrieved =>
    simp only [hcause] at h
    split_ifs at h with hs hmissing
    · cases h
    · have hplain : f.consistency.isSerial = false := by simpa [hfirst] using hs
      exact ⟨received, .readTimeout hfirst hcause hplain hmissing⟩
    · cases h
    · cases h
  | writeTimeout writeType required received =>
    simp only [hcause, if_neg hn] at h
    cases writeType with
    | unloggedBatch => exact ⟨received, .unloggedBatch hfirst hcause⟩
    | simple | batch => split_ifs at h <;> cases h
    | batchLog | counter | cas | view | cdc | other name => cases h
  | unavailable required alive =>
    simp only [hcause, if_neg hn] at h
    split_ifs at h with hs
    · cases h
    · exact ⟨alive, .unavailable hfirst hcause (Bool.eq_false_iff.2 hs)⟩
  | clientTimeout | connectionError reason | unexpectedError error =>
    simp [hcause, Decision.level?] at h

end Lowering

/-- **The level that the downgrading policy names**, if it names one with a retry at the same
target. -/
theorem Stock.downgrading_eq_retrySameTarget_iff {f : Failure} {c : Consistency} :
    downgrading f = .retrySameTarget (some c) ↔
      ∃ known, Lowering f known ∧
        (c.Strongest known ∨ (known ≤ 0 ∧ f.consistency = .eachQuorum ∧ c = .one)) := by
  constructor
  · intro h
    obtain ⟨known, hl⟩ := Lowering.of_level? (congrArg Decision.level? h)
    rw [hl.downgrading_eq] at h
    exact ⟨known, hl, lowered_eq_retrySameTarget_iff.1 h⟩
  · rintro ⟨known, hl, hc⟩
    rw [hl.downgrading_eq]
    exact lowered_eq_retrySameTarget_iff.2 hc

/-- **The strongest level that can be served.** After any failure, the downgrading policy names a
level only with a retry at the same target, and only if the failure is the first one of its request
and one of those after which the level is lowered. It is the strongest level that the replicas known
to work can serve. Where none is known to work, it is the level one if the failed level asks for a
quorum in each datacenter, and for any other level the error is given back. -/
theorem downgrading_strongest (f : Failure) :
    (∀ c, Stock.downgrading f = .retrySameTarget (some c) ↔
      ∃ known, Lowering f known ∧
        (c.Strongest known ∨ (known ≤ 0 ∧ f.consistency = .eachQuorum ∧ c = .one))) ∧
    (∀ known, Lowering f known →
      (Stock.downgrading f = .rethrow ↔ known ≤ 0 ∧ f.consistency ≠ .eachQuorum)) ∧
    ∀ c, (Stock.downgrading f).level? = some c →
      Stock.downgrading f = .retrySameTarget (some c) := by
  refine ⟨fun c => Stock.downgrading_eq_retrySameTarget_iff, ?_, ?_⟩
  · intro known hl
    rw [hl.downgrading_eq]
    exact Stock.lowered_eq_rethrow_iff
  · intro c h
    obtain ⟨known, hl⟩ := Lowering.of_level? h
    rw [hl.downgrading_eq] at h ⊢
    rcases Stock.lowered_cases known f.consistency with hd | ⟨d, -, hd⟩
    · rw [hd] at h; cases h
    · rw [hd] at h ⊢
      cases h
      rfl

/-- How many replicas a failed attempt needed, if the failure is a missed quorum. -/
def Failure.required? (f : Failure) : Option Int :=
  match f.cause with
  | .readTimeout required _ _ => some required
  | .writeTimeout _ required _ => some required
  | .unavailable required _ => some required
  | .clientTimeout | .connectionError _ | .unexpectedError _ => none

/-- **When a lowered level is a stricter one.** It needs more replicas than the failed attempt did
if and only if more are known to work than were required. A read timeout is looked at for this
before the level is lowered, but the timeout of an unlogged batch and a lack of replicas are not. -/
theorem downgrading_stricter_iff (f : Failure) (required : Int)
    (hrequired : f.required? = some required) (hpos : 1 ≤ required) :
    (∃ c, Stock.downgrading f = .retrySameTarget (some c) ∧ ¬ c.Within required) ↔
    f.retryCount = 0 ∧ required < 3 ∧
      ((∃ received, f.cause = .writeTimeout .unloggedBatch required received ∧
          required < received) ∨
        ∃ alive, f.cause = .unavailable required alive ∧ f.consistency.isSerial = false ∧
          required < alive) := by
  constructor
  · rintro ⟨c, hd, hnot⟩
    obtain ⟨known, hl, hc⟩ := Stock.downgrading_eq_retrySameTarget_iff.1 hd
    have hmore : required < known ∧ required < 3 := by
      rcases hc with hc | ⟨-, -, rfl⟩
      · rw [hc.within_iff] at hnot
        omega
      -- the level one asks for as much as any failed attempt did
      · exact absurd ⟨1, rfl, hpos⟩ hnot
    cases hl with
    | readTimeout first cause plain missing =>
      simp only [Failure.required?, cause, Option.some.injEq] at hrequired
      omega
    | unloggedBatch first cause =>
      simp only [Failure.required?, cause, Option.some.injEq] at hrequired
      subst hrequired
      exact ⟨first, hmore.2, .inl ⟨_, cause, hmore.1⟩⟩
    | unavailable first cause plain =>
      simp only [Failure.required?, cause, Option.some.injEq] at hrequired
      subst hrequired
      exact ⟨first, hmore.2, .inr ⟨_, cause, plain, hmore.1⟩⟩
  · rintro ⟨first, hthree, hmore⟩
    obtain ⟨known, hl, hknown⟩ : ∃ known, Lowering f known ∧ required < known := by
      rcases hmore with ⟨received, cause, hlt⟩ | ⟨alive, cause, plain, hlt⟩
      · exact ⟨received, .unloggedBatch first cause, hlt⟩
      · exact ⟨alive, .unavailable first cause plain, hlt⟩
    have hserved : 1 ≤ known := by omega
    obtain ⟨c, hc⟩ := Consistency.exists_strongest hserved
    refine ⟨c, Stock.downgrading_eq_retrySameTarget_iff.2 ⟨known, hl, .inl hc⟩, ?_⟩
    rw [hc.within_iff]
    omega

/-- Two replicas were required and three are alive: the next attempt asks for all three. -/
theorem downgrading_stricter_iff_unavailable :
    let f : Failure := ⟨.ofText "SELECT", .two, 0, .unavailable 2 3⟩
    f.required? = some 2 ∧ (1 : Int) ≤ 2 ∧
      ∃ c, Stock.downgrading f = .retrySameTarget (some c) ∧ ¬ c.Within 2 := by
  intro f
  refine ⟨rfl, by decide, (downgrading_stricter_iff f 2 rfl (by decide)).2 ?_⟩
  exact ⟨rfl, by decide, .inr ⟨3, rfl, rfl, by decide⟩⟩

/-- **A level that is raised**: after the timeout of an unlogged batch with three acknowledgements
of two, the next attempt asks for three. -/
theorem downgrading_raised :
    let f : Failure := ⟨.ofText "BATCH", .two, 0, .writeTimeout .unloggedBatch 2 3⟩
    f.required? = some 2 ∧ Stock.downgrading f = .retrySameTarget (some .three) ∧
      ¬ Consistency.three.Within 2 := by
  intro f
  refine ⟨rfl, by decide, ?_⟩
  rintro ⟨n, hn, hle⟩
  cases hn
  omega

end Reattempt
