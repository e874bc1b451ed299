import Reattempt.Proofs.Lowering

/-!
# Where the two retrying policies part

The downgrading policy answers as the standard one does, but for some first
failures of a request. These are the ones after which it lowers the level, unless
giving up is all that is left, the writes that it takes as done once a replica has
acknowledged them, and the reads at a serial level, which it never repeats.

* `Stock.Disputed`: the failures that the two policies answer differently.
* `Stock.standard_eq_downgrading_of_retried`,
  `Stock.standard_eq_downgrading_of_not_isQuorum`: there is no dispute after a
  retry, nor about the trouble of one target.
* `Lowering.answers_ne_iff`: the disputes about lowered levels.
* `standard_ne_downgrading_iff`: all disputes.
-/

namespace Reattempt

namespace Stock

/-- **The failures in dispute** between the standard and the downgrading policy, each of them the
first one of its request. -/
inductive Disputed (f : Failure) : Prop where
  /-- A read at a serial level that got enough responses, none of them with the data. -/
  | serialRead {required received : Int} (first : f.retryCount = 0)
      (cause : f.cause = .readTimeout required received false)
      (serial : f.consistency.isSerial = true) (enough : required ≤ received) : Disputed f
  /-- A read with too few responses, at a level that can be lowered. -/
  | read {required received : Int} {dataRetrieved : Bool} (first : f.retryCount = 0)
      (cause : f.cause = .readTimeout required received dataRetrieved)
      (plain : f.consistency.isSerial = false) (missing : received < required)
      (lowers : 1 ≤ received ∨ f.consistency = .eachQuorum) : Disputed f
  /-- A write that some replica has acknowledged. -/
  | write {writeType : WriteType} {required received : Int} (first : f.retryCount = 0)
      (cause : f.cause = .writeTimeout writeType required received)
      (kind : writeType = .simple ∨ writeType = .batch) (acknowledged : 0 < received) : Disputed f
  /-- An unlogged batch, at a level that can be lowered. -/
  | unloggedBatch {required received : Int} (first : f.retryCount = 0)
      (cause : f.cause = .writeTimeout .unloggedBatch required received)
      (lowers : 1 ≤ received ∨ f.consistency = .eachQuorum) : Disputed f
  /-- A lack of replicas, at a level that is not serial. -/
  | unavailable {required alive : Int} (first : f.retryCount = 0)
      (cause : f.cause = .unavailable required alive) (plain : f.consistency.isSerial = false) :
      Disputed f

variable {f : Failure}

/-- **No dispute about the trouble of one target**: both policies try the next one. -/
theorem standard_eq_downgrading_of_not_isQuorum (h : f.category.isQuorum = false) :
    standard f = downgrading f := by
  rcases standard_cases f with ⟨-, hs⟩ | ⟨hq, -⟩
  · rcases downgrading_cases f with ⟨-, hd⟩ | ⟨hq, -⟩
    · rw [hs, hd]
    · rw [h] at hq; cases hq
  · rw [h] at hq; cases hq

/-- **No dispute after a retry**: both policies give up, if a quorum was missed. -/
theorem standard_eq_downgrading_of_retried (h : 0 < f.retryCount) :
    standard f = downgrading f := by
  cases hq : f.category.isQuorum with
  | false => exact standard_eq_downgrading_of_not_isQuorum hq
  | true =>
    have hs : standard f = .rethrow := Leaf.sparing_standard.quorum f hq h
    have hd : downgrading f = .rethrow := Leaf.sparing_downgrading.quorum f hq h
    rw [hs, hd]

theorem lowered_ne_rethrow_iff {known : Int} {asked : Consistency} :
    lowered known asked ≠ .rethrow ↔ 1 ≤ known ∨ asked = .eachQuorum := by
  rw [Ne, lowered_eq_rethrow_iff, not_and_or, not_not]
  have hpos : ¬ known ≤ 0 ↔ 1 ≤ known := by omega
  rw [hpos]

theorem lowered_ne_retryNextTarget (known : Int) (asked : Consistency)
    (level : Option Consistency) : lowered known asked ≠ .retryNextTarget level := by
  rcases lowered_cases known asked with h | ⟨c, -, h⟩ <;> rw [h] <;> nofun

end Stock

namespace Lowering

variable {f : Failure} {known : Int}

/-- Where the level is lowered, the standard policy gives up, but tries the next target if replicas
are missing. -/
theorem standard_eq (h : Lowering f known) :
    Stock.standard f =
      if f.category = .unavailable then .retryNextTarget none else .rethrow := by
  unfold Stock.standard Failure.category
  cases h with
  | readTimeout first cause plain missing =>
    simp [cause, Cause.category, Int.not_le.2 missing]
  | unloggedBatch first cause => simp [cause, Cause.category]
  | unavailable first cause plain => simp [cause, Cause.category, first]

/-- **The disputes about lowered levels.** -/
theorem answers_ne_iff (h : Lowering f known) :
    Stock.standard f ≠ Stock.downgrading f ↔
      f.category = .unavailable ∨ 1 ≤ known ∨ f.consistency = .eachQuorum := by
  rw [h.standard_eq, h.downgrading_eq]
  by_cases hu : f.category = .unavailable
  · rw [if_pos hu]
    exact iff_of_true (Stock.lowered_ne_retryNextTarget _ _ _).symm (.inl hu)
  · rw [if_neg hu, ne_comm, Stock.lowered_ne_rethrow_iff]
    exact (or_iff_right hu).symm

end Lowering

namespace Stock

variable {f : Failure}

/-- In a dispute the policies answer differently. -/
theorem Disputed.ne (h : Disputed f) : standard f ≠ downgrading f := by
  cases h with
  | serialRead first cause serial enough =>
    have hs : standard f = .retrySameTarget none := by
      unfold standard
      simp [cause, first, enough]
    have hd : downgrading f = .rethrow := by
      unfold downgrading
      simp [cause, serial]
    rw [hs, hd]
    nofun
  | read first cause plain missing lowers =>
    exact (Lowering.readTimeout first cause plain missing).answers_ne_iff.2 (.inr lowers)
  | write first cause kind acknowledged =>
    have hs : standard f = .rethrow := by
      unfold standard
      rcases kind with rfl | rfl <;> simp [cause]
    have hd : downgrading f = .ignore := by
      unfold downgrading
      rcases kind with rfl | rfl <;> simp [cause, first, acknowledged]
    rw [hs, hd]
    nofun
  | unloggedBatch first cause lowers =>
    exact (Lowering.unloggedBatch first cause).answers_ne_iff.2 (.inr lowers)
  | unavailable first cause plain =>
    have hcategory : f.category = .unavailable := congrArg Cause.category cause
    exact (Lowering.unavailable first cause plain).answers_ne_iff.2 (.inl hcategory)

/-- The disputes about read timeouts. -/
theorem disputed_of_readTimeout {required received : Int} {dataRetrieved : Bool}
    (first : f.retryCount = 0) (cause : f.cause = .readTimeout required received dataRetrieved)
    (h : standard f ≠ downgrading f) : Disputed f := by
  have hs : standard f = if required ≤ received ∧ dataRetrieved = false then .retrySameTarget none
      else .rethrow := by
    unfold standard
    simp [cause, first]
  cases hserial : f.consistency.isSerial with
  | true =>
    have hd : downgrading f = .rethrow := by
      unfold downgrading
      simp [cause, hserial]
    rw [hs, hd] at h
    obtain ⟨henough, rfl⟩ : required ≤ received ∧ dataRetrieved = false := by
      by_contra hnot
      exact h (if_neg hnot)
    exact .serialRead first cause hserial henough
  | false =>
    by_cases hmissing : received < required
    · have hl : Lowering f received := .readTimeout first cause hserial hmissing
      have hcategory : f.category = .readTimeout := congrArg Cause.category cause
      have hlowers := (hl.answers_ne_iff.1 h).resolve_left (by rw [hcategory]; nofun)
      exact .read first cause hserial hmissing hlowers
    · -- with enough responses both policies go by the data alone
      have hd : downgrading f = if dataRetrieved then .rethrow else .retrySameTarget none := by
        unfold downgrading
        simp [cause, first, hserial, hmissing]
      rw [hs, hd] at h
      cases dataRetrieved with
      | true => simp at h
      | false => simp [Int.not_lt.1 hmissing] at h

/-- The disputes about write timeouts. -/
theorem disputed_of_writeTimeout {writeType : WriteType} {required received : Int}
    (first : f.retryCount = 0) (cause : f.cause = .writeTimeout writeType required received)
    (h : standard f ≠ downgrading f) : Disputed f := by
  have hs : standard f = if writeType = .batchLog then .retrySameTarget none else .rethrow := by
    unfold standard
    simp [cause, first]
  have hn : ¬ 0 < f.retryCount := by omega
  cases writeType with
  | simple | batch =>
    have hreceived : 0 < received := by
      by_contra hnone
      refine h (hs.trans ?_)
      unfold downgrading
      simp [cause, hn, hnone]
    exact .write first cause (by simp) hreceived
  | unloggedBatch =>
    have hl : Lowering f received := .unloggedBatch first cause
    have hcategory : f.category = .writeTimeout := congrArg Cause.category cause
    have hlowers := (hl.answers_ne_iff.1 h).resolve_left (by rw [hcategory]; nofun)
    exact .unloggedBatch first cause hlowers
  | batchLog | counter | cas | view | cdc | other name =>
    -- both policies repeat the log of a batch, and give up on the others
    refine absurd (hs.trans ?_) h
    unfold downgrading
    simp [cause, hn]

/-- The disputes about a lack of replicas. -/
theorem disputed_of_unavailable {required alive : Int} (first : f.retryCount = 0)
    (cause : f.cause = .unavailable required alive) (h : standard f ≠ downgrading f) :
    Disputed f := by
  cases hserial : f.consistency.isSerial with
  | true =>
    refine absurd ?_ h
    unfold standard downgrading
    simp [cause, first, hserial]
  | false => exact .unavailable first cause hserial

end Stock

/-- **The exact difference between the two retrying policies.** They answer a failure differently if
and only if it is in dispute. In particular they agree on every failure after a retry, and on every
client timeout, broken connection and unexpected error. -/
theorem standard_ne_downgrading_iff (f : Failure) :
    (Stock.standard f ≠ Stock.downgrading f ↔ Stock.Disputed f) ∧
    (0 < f.retryCount ∨ f.category.isQuorum = false →
      Stock.standard f = Stock.downgrading f) := by
  have hagree : 0 < f.retryCount ∨ f.category.isQuorum = false →
      Stock.standard f = Stock.downgrading f := by
    rintro (hretried | hquorum)
    · exact Stock.standard_eq_downgrading_of_retried hretried
    · exact Stock.standard_eq_downgrading_of_not_isQuorum hquorum
  refine ⟨⟨fun h => ?_, Stock.Disputed.ne⟩, hagree⟩
  have first : f.retryCount = 0 := by
    by_contra hn
    exact h (hagree (.inl (by omega)))
  cases cause : f.cause with
  | readTimeout required received dataRetrieved =>
    exact Stock.disputed_of_readTimeout first cause h
  | writeTimeout writeType required received => exact Stock.disputed_of_writeTimeout first cause h
  | unavailable required alive => exact Stock.disputed_of_unavailable first cause h
  | clientTimeout | connectionError reason | unexpectedError error =>
    have hquorum : f.category.isQuorum = false :=
      congrArg (fun c => c.category.isQuorum) cause
    exact absurd (hagree (.inr hquorum)) h

end Reattempt
