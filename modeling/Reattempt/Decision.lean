import Reattempt.Consistency.Basic

/-!
# Decisions

What to do after an attempt has failed.

* `Decision.isRetry`: the decisions that ask for another attempt.
* `Decision.level?`: the consistency level that a decision names.
* `Decision.text`: the written form; `Decision.text_injective`: it tells which
  decision it is.
-/

namespace Reattempt

/-- What to do after an attempt has failed. -/
inductive Decision where
  /-- Try again here, at the named level or at the same one. -/
  | retrySameTarget (consistency : Option Consistency)
  /-- Try the next target, at the named level or at the same one. -/
  | retryNextTarget (consistency : Option Consistency)
  /-- Take the request as done, without a response. -/
  | ignore
  /-- Give the error back to the caller. -/
  | rethrow
  deriving DecidableEq, Repr

namespace Decision

/-- Whether a decision asks for another attempt. -/
def isRetry : Decision → Bool
  | retrySameTarget _ | retryNextTarget _ => true
  | ignore | rethrow => false

/-- The consistency level that a decision names. -/
def level? : Decision → Option Consistency
  | retrySameTarget c | retryNextTarget c => c
  | ignore | rethrow => none

/-- The written form of a level that may be missing. -/
def levelText : Option Consistency → String
  | some c => "Some(" ++ c.title ++ ")"
  | none => "None"

/-- The written form of a decision. -/
def text : Decision → String
  | retrySameTarget c => "RetrySameTarget(" ++ levelText c ++ ")"
  | retryNextTarget c => "RetryNextTarget(" ++ levelText c ++ ")"
  | ignore => "Ignore"
  | rethrow => "Rethrow"

theorem levelText_injective {l l' : Option Consistency} (h : levelText l = levelText l') :
    l = l' := by
  have hne : ∀ c : Consistency, levelText (some c) ≠ "None" := fun c => by cases c <;> decide
  cases l with
  | none =>
    cases l' with
    | none => rfl
    | some c => exact absurd h.symm (hne c)
  | some c =>
    cases l' with
    | none => exact absurd h (hne c)
    | some c' =>
      simp only [levelText, String.append_left_inj, String.append_right_inj] at h
      exact congrArg some (Consistency.title_injective h)

/-- Retries have longer texts than the other decisions. -/
theorem isRetry_iff_lt_length_text (d : Decision) : d.isRetry = true ↔ 16 < d.text.length := by
  have hretry : ∀ (word : String) (l : Option Consistency), word.length = 16 →
      16 < (word ++ levelText l ++ ")").length := by
    intro word l hword
    have hbracket : ")".length = 1 := rfl
    rw [String.length_append, String.length_append, hword, hbracket]
    omega
  cases d with
  | retrySameTarget l => exact iff_of_true rfl (hretry "RetrySameTarget(" l rfl)
  | retryNextTarget l => exact iff_of_true rfl (hretry "RetryNextTarget(" l rfl)
  | ignore => decide
  | rethrow => decide

/-- Texts that begin with different words of the same length are different. -/
theorem append_ne_append {word word' : String} (hlength : word.length = word'.length)
    (hne : word ≠ word') (s t : String) : word ++ s ≠ word' ++ t := by
  intro h
  have hlist := congrArg String.toList h
  rw [String.toList_append, String.toList_append] at hlist
  have hlists : word.toList.length = word'.toList.length := by
    rw [String.length_toList, String.length_toList, hlength]
  have hword : word.toList = word'.toList := List.append_inj_left hlist hlists
  exact hne (String.toList_inj.1 hword)

theorem text_retrySameTarget_ne (l l' : Option Consistency) :
    text (retrySameTarget l) ≠ text (retryNextTarget l') := by
  have hsame : text (retrySameTarget l) = "RetrySameTarget(" ++ (levelText l ++ ")") :=
    String.append_assoc
  have hnext : text (retryNextTarget l') = "RetryNextTarget(" ++ (levelText l' ++ ")") :=
    String.append_assoc
  rw [hsame, hnext]
  exact append_ne_append (by decide) (by decide) _ _

/-- **The written form of a decision tells which one it is.** -/
theorem text_injective {d d' : Decision} (h : d.text = d'.text) : d = d' := by
  have hretry : d.isRetry = true ↔ d'.isRetry = true := by
    rw [isRetry_iff_lt_length_text, isRetry_iff_lt_length_text, h]
  cases d <;> cases d' <;> simp only [isRetry, Bool.false_eq_true, iff_true, iff_false,
    not_true_eq_false] at hretry
  case retrySameTarget.retrySameTarget l l' =>
    have hlevels := (String.append_right_inj _).1 ((String.append_left_inj ")").1 h)
    exact congrArg _ (levelText_injective hlevels)
  case retryNextTarget.retryNextTarget l l' =>
    have hlevels := (String.append_right_inj _).1 ((String.append_left_inj ")").1 h)
    exact congrArg _ (levelText_injective hlevels)
  case retrySameTarget.retryNextTarget l l' => exact absurd h (text_retrySameTarget_ne l l')
  case retryNextTarget.retrySameTarget l l' => exact absurd h.symm (text_retrySameTarget_ne l' l)
  case ignore.ignore => rfl
  case rethrow.rethrow => rfl
  case ignore.rethrow => exact absurd h (by decide)
  case rethrow.ignore => exact absurd h (by decide)

end Decision

end Reattempt
