import Reattempt.Proofs.Fallback
import Reattempt.Proofs.Layers

/-!
# What the stock policies ask for

The standard and the downgrading policy are sparing with retries: after a missed
quorum they ask for one if there was none before, after any other trouble for the
next target, and only a retry at the same target may name a level. Layers around
them, and a configuration as base policy, at most make them give up more often.

* `Stock.standard_cases`, `Stock.downgrading_cases`: what the stock leaves answer.
* `Leaf.Sparing`: a leaf that is sparing with retries.
* `Policy.decision_decide`, `Configured.decision_decide`: what becomes of the
  decision of a leaf.
* `Configured.Sparing`, `Leaf.Sparing.configured`: a configured policy is as
  sparing as its leaf.
-/

namespace Reattempt

namespace Stock

/-- **What the standard policy answers.** -/
theorem standard_cases (f : Failure) :
    (f.category.isQuorum = false ∧ standard f = .retryNextTarget none) ∨
      (f.category.isQuorum = true ∧ (standard f = .rethrow ∨ (f.retryCount = 0 ∧
        (standard f = .retrySameTarget none ∨ standard f = .retryNextTarget none)))) := by
  obtain ⟨query, level, n, cause⟩ := f
  cases cause with
  | readTimeout required received dataRetrieved =>
    refine .inr ⟨rfl, ?_⟩
    by_cases h : n = 0 ∧ required ≤ received ∧ dataRetrieved = false
    · exact .inr ⟨h.1, .inl (if_pos h)⟩
    · exact .inl (if_neg h)
  | writeTimeout writeType required received =>
    refine .inr ⟨rfl, ?_⟩
    by_cases h : n = 0 ∧ writeType = .batchLog
    · exact .inr ⟨h.1, .inl (if_pos h)⟩
    · exact .inl (if_neg h)
  | unavailable required alive =>
    refine .inr ⟨rfl, ?_⟩
    by_cases h : n = 0
    · exact .inr ⟨h, .inr (if_pos h)⟩
    · exact .inl (if_neg h)
  | clientTimeout => exact .inl ⟨rfl, rfl⟩
  | connectionError reason => exact .inl ⟨rfl, rfl⟩
  | unexpectedError error => exact .inl ⟨rfl, rfl⟩

/-- A level is lowered to one, two or three. -/
theorem lowered_cases (known : Int) (asked : Consistency) :
    lowered known asked = .rethrow ∨
      ∃ c ∈ [Consistency.one, .two, .three], lowered known asked = .retrySameTarget (some c) := by
  unfold lowered
  cases h : served? known with
  | none =>
    by_cases ha : asked = .eachQuorum
    · exact .inr ⟨.one, by decide, if_pos ha⟩
    · exact .inl (if_neg ha)
  | some c =>
    refine .inr ⟨c, ?_, rfl⟩
    unfold served? at h
    split_ifs at h <;> cases h <;> decide

/-- **What the downgrading policy answers.** -/
theorem downgrading_cases (f : Failure) :
    (f.category.isQuorum = false ∧ downgrading f = .retryNextTarget none) ∨
      (f.category.isQuorum = true ∧ (downgrading f = .rethrow ∨ (f.retryCount = 0 ∧
        (downgrading f = .retrySameTarget none ∨
          (∃ c ∈ [Consistency.one, .two, .three], downgrading f = .retrySameTarget (some c)) ∨
          downgrading f = .retryNextTarget none ∨
          (downgrading f = .ignore ∧ ∃ writeType required received,
            f.cause = .writeTimeout writeType required received ∧
              (writeType = .simple ∨ writeType = .batch) ∧ 0 < received))))) := by
  obtain ⟨query, level, n, cause⟩ := f
  cases cause with
  | readTimeout required received dataRetrieved =>
    refine .inr ⟨rfl, ?_⟩
    simp only [downgrading]
    by_cases hn : 0 < n ∨ level.isSerial = true
    · exact .inl (if_pos hn)
    have h0 : n = 0 := by omega
    rw [if_neg hn]
    split
    · exact (lowered_cases received level).imp_right fun h => ⟨h0, .inr (.inl h)⟩
    · split
      · exact .inl rfl
      · exact .inr ⟨h0, .inl rfl⟩
  | writeTimeout writeType required received =>
    refine .inr ⟨rfl, ?_⟩
    simp only [downgrading]
    by_cases hn : 0 < n
    · exact .inl (if_pos hn)
    have h0 : n = 0 := by omega
    rw [if_neg hn]
    -- only the type of the write counts from here on
    cases writeType with
    | simple =>
      by_cases hr : 0 < received
      · exact .inr ⟨h0, .inr (.inr (.inr ⟨if_pos hr, _, _, _, rfl, .inl rfl, hr⟩))⟩
      · exact .inl (if_neg hr)
    | batch =>
      by_cases hr : 0 < received
      · exact .inr ⟨h0, .inr (.inr (.inr ⟨if_pos hr, _, _, _, rfl, .inr rfl, hr⟩))⟩
      · exact .inl (if_neg hr)
    | unloggedBatch =>
      exact (lowered_cases received level).imp_right fun h => ⟨h0, .inr (.inl h)⟩
    | batchLog => exact .inr ⟨h0, .inl rfl⟩
    | counter | cas | view | cdc | other name => exact .inl rfl
  | unavailable required alive =>
    refine .inr ⟨rfl, ?_⟩
    simp only [downgrading]
    by_cases hn : 0 < n
    · exact .inl (if_pos hn)
    have h0 : n = 0 := by omega
    rw [if_neg hn]
    split
    · exact .inr ⟨h0, .inr (.inr (.inl rfl))⟩
    · exact (lowered_cases alive level).imp_right fun h => ⟨h0, .inr (.inl h)⟩
  | clientTimeout => exact .inl ⟨rfl, rfl⟩
  | connectionError reason => exact .inl ⟨rfl, rfl⟩
  | unexpectedError error => exact .inl ⟨rfl, rfl⟩

end Stock

namespace Leaf

/-- **A leaf that is sparing with retries.** -/
structure Sparing (l : Leaf) : Prop where
  /-- After a missed quorum it gives up if there was a retry before. -/
  quorum : ∀ f, f.category.isQuorum = true → 0 < f.retryCount → l.decide f = .rethrow
  /-- After any other trouble it asks for the next target, at the same level. -/
  other : ∀ f, f.category.isQuorum = false → l.decide f = .retryNextTarget none
  /-- It names no level for a next target. -/
  next : ∀ f level, l.decide f = .retryNextTarget level → level = none

/-- A leaf is sparing if each of its answers is. -/
theorem Sparing.of_cases {l : Leaf}
    (h : ∀ f, (f.category.isQuorum = false ∧ l.decide f = .retryNextTarget none) ∨
      (f.category.isQuorum = true ∧ (l.decide f = .rethrow ∨
        (f.retryCount = 0 ∧ ∀ level, l.decide f = .retryNextTarget level → level = none)))) :
    l.Sparing where
  quorum f hq hn := by
    rcases h f with ⟨hq', -⟩ | ⟨-, hd | ⟨h0, -⟩⟩
    · simp [hq] at hq'
    · exact hd
    · omega
  other f hq := by
    rcases h f with ⟨-, hd⟩ | ⟨hq', -⟩
    · exact hd
    · simp [hq] at hq'
  next f level hf := by
    rcases h f with ⟨-, hd⟩ | ⟨-, hd | ⟨-, hlevel⟩⟩
    · rw [hf] at hd; cases hd; rfl
    · rw [hf] at hd; cases hd
    · exact hlevel level hf

theorem sparing_standard : standard.Sparing := by
  refine .of_cases fun f => (Stock.standard_cases f).imp_right fun ⟨hq, h⟩ => ⟨hq, ?_⟩
  refine h.imp_right fun ⟨h0, h⟩ => ⟨h0, fun level hf => ?_⟩
  change Stock.standard f = _ at hf
  rw [hf] at h
  rcases h with h | h <;> cases h
  rfl

theorem sparing_downgrading : downgrading.Sparing := by
  refine .of_cases fun f => (Stock.downgrading_cases f).imp_right fun ⟨hq, h⟩ => ⟨hq, ?_⟩
  refine h.imp_right fun ⟨h0, h⟩ => ⟨h0, fun level hf => ?_⟩
  change Stock.downgrading f = _ at hf
  rw [hf] at h
  rcases h with h | ⟨c, -, h⟩ | h | ⟨h, -⟩ <;> cases h
  rfl

end Leaf

/-- The errors that tell of a missed quorum. -/
def AttemptError.isQuorum : AttemptError → Bool
  | db (.readTimeout ..) _ | db (.writeTimeout ..) _ | db (.unavailable ..) _ => true
  | _ => false

/-- A failure is told by its error, and comes after so many retries. -/
theorem Failure.of_ofError? {q : Query} {level : Consistency} {n : Nat} {e : AttemptError}
    {f : Failure} (h : ofError? q level n e = some f) :
    f.category.isQuorum = e.isQuorum ∧ f.retryCount = n := by
  cases e with
  | db e text => cases e <;> cases h <;> exact ⟨rfl, rfl⟩
  | brokenConnection reason => cases h; exact ⟨rfl, rfl⟩
  | noFreeStream => cases h; exact ⟨rfl, rfl⟩
  | clientTimeout limit => cases h; exact ⟨rfl, rfl⟩

theorem Failure.of_cause_writeTimeout {q : Query} {level : Consistency} {n : Nat}
    {e : AttemptError} {f : Failure} {writeType : WriteType} {required received : Int}
    (h : ofError? q level n e = some f)
    (hcause : f.cause = .writeTimeout writeType required received) :
    ∃ reported text, e = .db (.writeTimeout reported received required writeType) text := by
  cases e with
  | db e text => cases e <;> cases h <;> cases hcause; exact ⟨_, _, rfl⟩
  | brokenConnection reason => cases h; cases hcause
  | noFreeStream => cases h; cases hcause
  | clientTimeout limit => cases h; cases hcause

/-- **A policy gives up, or decides as its leaf does.** -/
theorem Policy.decision_decide (flags : Flags) (p : Policy) (f : Failure) :
    (p.decide flags f).decision = .rethrow ∨ (p.decide flags f).decision = p.leaf.decide f := by
  have hanswer := p.answer_decide flags f
  split at hanswer
  · exact .inl (congrArg Prod.fst hanswer)
  · exact .inr (congrArg Prod.fst hanswer)

namespace Configured

/-- **A configured policy gives up, decides as its leaf does, or leaves it to the fixed rule.** -/
theorem decision_decide (c : Configured) (flags : Flags) (q : Query) (level : Consistency)
    (e : AttemptError) (n : Nat) :
    (c.decide flags q level e n).decision = .rethrow ∨
      ∃ f, Failure.ofError? q level n e = some f ∧
        (((e.isQuorum = true ∨ c.supportsExtended = true) ∧
            (c.decide flags q level e n).decision = c.policy.leaf.decide f) ∨
          (e.isQuorum = false ∧ (c.decide flags q level e n).decision = fallbackDecision n)) := by
  cases hf : Failure.ofError? q level n e with
  | none => exact .inl (by simp only [decide, hf]; rfl)
  | some f =>
    obtain ⟨hquorum, rfl⟩ := Failure.of_ofError? hf
    have hask : c.decide flags q level e f.retryCount = c.ask flags f := by simp only [decide, hf]
    rw [hask]
    cases c with
    | extended p =>
      exact (p.decision_decide flags f).imp_right fun h => ⟨f, rfl, .inl ⟨.inr rfl, h⟩⟩
    | base p =>
      cases hq : f.category.isQuorum with
      | true =>
        simp only [ask, hq, if_true]
        exact (p.decision_decide flags f).imp_right fun h =>
          ⟨f, rfl, .inl ⟨.inl (hquorum ▸ hq), h⟩⟩
      | false =>
        simp only [ask, hq, Bool.false_eq_true, if_false]
        exact .inr ⟨f, rfl, .inr ⟨hquorum ▸ hq, rfl⟩⟩

/-- **A configured policy that is sparing with retries.** -/
structure Sparing (c : Configured) : Prop where
  /-- It asks for the same target again only if there was no retry before. -/
  same : ∀ flags q level e n named,
    (c.decide flags q level e n).decision = .retrySameTarget named → n = 0
  /-- It names no level for a next target. -/
  next : ∀ flags q level e n named,
    (c.decide flags q level e n).decision = .retryNextTarget named → named = none
  /-- After a missed quorum it gives up if there was a retry before. -/
  quorum : ∀ flags q level e n, e.isQuorum = true → 0 < n →
    (c.decide flags q level e n).decision = .rethrow

end Configured

/-- **A configured policy is as sparing as its leaf.** -/
theorem Leaf.Sparing.configured {c : Configured} (h : c.policy.leaf.Sparing) : c.Sparing where
  same flags q level e n named hd := by
    rcases c.decision_decide flags q level e n with hr | ⟨f, hf, ⟨-, hl⟩ | ⟨-, hl⟩⟩
    · rw [hd] at hr; cases hr
    · obtain ⟨-, rfl⟩ := Failure.of_ofError? hf
      rw [hd] at hl
      -- a trouble of one target leads to the next one, so a quorum was missed
      cases hq : f.category.isQuorum with
      | false => rw [h.other f hq] at hl; cases hl
      | true =>
        by_contra hn
        rw [h.quorum f hq (by omega)] at hl
        cases hl
    · exact absurd (hl.symm.trans hd) (Configured.fallbackDecision_ne_retrySameTarget n named)
  next flags q level e n named hd := by
    rcases c.decision_decide flags q level e n with hr | ⟨f, -, ⟨-, hl⟩ | ⟨-, hl⟩⟩
    · rw [hd] at hr; cases hr
    · exact h.next f named (hl.symm.trans hd)
    · exact (Configured.fallbackDecision_eq_retryNextTarget_iff.1 (hl.symm.trans hd)).2
  quorum flags q level e n he hn := by
    rcases c.decision_decide flags q level e n with hr | ⟨f, hf, ⟨-, hl⟩ | ⟨he', -⟩⟩
    · exact hr
    · obtain ⟨hquorum, rfl⟩ := Failure.of_ofError? hf
      exact hl.trans (h.quorum f (hquorum.trans he) hn)
    · rw [he] at he'; cases he'

/-- **A sparing base policy gives up after one retry**, whatever the error is. -/
theorem Leaf.Sparing.decide_base {p : Policy} (h : p.leaf.Sparing) {n : Nat} (hn : 0 < n)
    (flags : Flags) (q : Query) (level : Consistency) (e : AttemptError) :
    ((Configured.base p).decide flags q level e n).decision = .rethrow := by
  rcases (Configured.base p).decision_decide flags q level e n with
    hr | ⟨f, -, ⟨he | hbase, -⟩ | ⟨-, hl⟩⟩
  · exact hr
  · exact (configured (c := .base p) h).quorum flags q level e n he hn
  · cases hbase
  · exact hl.trans (if_neg (by omega))

namespace Configured

variable {c : Configured} {flags : Flags} {q : Query} {level : Consistency} {e : AttemptError}
  {n : Nat}

/-- Over the standard policy no level is ever named. -/
theorem level?_of_standard (hleaf : c.policy.leaf = .standard) :
    (c.decide flags q level e n).decision.level? = none := by
  rcases c.decision_decide flags q level e n with hr | ⟨f, -, ⟨-, hl⟩ | ⟨-, hl⟩⟩
  · rw [hr]; rfl
  · rw [hl, hleaf]
    show (Stock.standard f).level? = none
    rcases Stock.standard_cases f with ⟨-, h⟩ | ⟨-, h | ⟨-, h | h⟩⟩ <;> rw [h] <;> rfl
  · rw [hl]
    unfold fallbackDecision
    split <;> rfl

/-- Over the standard policy no failure is ignored. -/
theorem ne_ignore_of_standard (hleaf : c.policy.leaf = .standard) :
    (c.decide flags q level e n).decision ≠ .ignore := by
  rcases c.decision_decide flags q level e n with hr | ⟨f, -, ⟨-, hl⟩ | ⟨-, hl⟩⟩
  · rw [hr]; nofun
  · rw [hl, hleaf]
    change Stock.standard f ≠ .ignore
    rcases Stock.standard_cases f with ⟨-, h⟩ | ⟨-, h | ⟨-, h | h⟩⟩ <;> rw [h] <;> nofun
  · rw [hl]
    unfold fallbackDecision
    split <;> nofun

/-- Over the downgrading policy only one, two or three is named for the same target. -/
theorem lower_of_downgrading (hleaf : c.policy.leaf = .downgrading) {lower : Consistency}
    (hd : (c.decide flags q level e n).decision = .retrySameTarget (some lower)) :
    lower ∈ [Consistency.one, .two, .three] := by
  rcases c.decision_decide flags q level e n with hr | ⟨f, -, ⟨-, hl⟩ | ⟨-, hl⟩⟩
  · rw [hd] at hr; cases hr
  · rw [hd, hleaf] at hl
    have hlower : Stock.downgrading f = .retrySameTarget (some lower) := hl.symm
    rcases Stock.downgrading_cases f with ⟨-, h⟩ | ⟨-, h | ⟨-, h | ⟨c, hc, h⟩ | h | ⟨h, -⟩⟩⟩ <;>
      rw [hlower] at h <;> cases h
    exact hc
  · exact absurd (hl.symm.trans hd) (fallbackDecision_ne_retrySameTarget n _)

/-- Over the downgrading policy a failure is ignored only before any retry, and only if a simple or
a batch write has been acknowledged. -/
theorem of_ignore_downgrading (hleaf : c.policy.leaf = .downgrading)
    (hd : (c.decide flags q level e n).decision = .ignore) :
    n = 0 ∧ ∃ reported received required writeType text,
      e = .db (.writeTimeout reported received required writeType) text ∧
        (writeType = .simple ∨ writeType = .batch) ∧ 0 < received := by
  rcases c.decision_decide flags q level e n with hr | ⟨f, hf, ⟨-, hl⟩ | ⟨-, hl⟩⟩
  · rw [hd] at hr; cases hr
  · obtain ⟨-, rfl⟩ := Failure.of_ofError? hf
    rw [hd, hleaf] at hl
    have hignore : Stock.downgrading f = .ignore := hl.symm
    rcases Stock.downgrading_cases f with ⟨-, h⟩ | ⟨-, h | ⟨h0, h | ⟨c, -, h⟩ | h |
        ⟨h, writeType, required, received, hcause, hw⟩⟩⟩ <;>
      rw [hignore] at h <;> cases h
    obtain ⟨reported, text, he⟩ := Failure.of_cause_writeTimeout hf hcause
    exact ⟨h0, reported, received, required, writeType, text, he, hw⟩
  · rw [hd] at hl
    unfold fallbackDecision at hl
    split at hl <;> cases hl

end Configured

end Reattempt
