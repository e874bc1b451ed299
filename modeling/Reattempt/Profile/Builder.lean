import Reattempt.Store

/-!
# Building profiles

A builder remembers the options that were set, each with its last value. What
was never set takes its default when a profile is built; a default flag is a
new one then, and a default policy reads the flag of the profile it is built
for.

* `Setting`, `Builder.set`: one option, and setting it.
* `Builder.build`: the profile, in a store that may have one more flag.
* `Profile.toBuilder`: the builder that has the options of a profile.
-/

namespace Reattempt

/-- An option and its value. -/
inductive Setting where
  | consistency (level : Consistency)
  | timeout (limit : Option Duration)
  | flag (flag : Flag)
  | policy (policy : Configured)
  | maxRetries (limit : UInt32)

/-- The options set so far. -/
structure Builder where
  consistency : Option Consistency
  timeout : Option (Option Duration)
  flag : Option Flag
  policy : Option Configured
  maxRetries : Option UInt32

namespace Builder

/-- A builder without any option set. -/
def blank : Builder := ⟨none, none, none, none, none⟩

/-- Set one option. -/
def set (b : Builder) : Setting → Builder
  | .consistency c => { b with consistency := some c }
  | .timeout t => { b with timeout := some t }
  | .flag f => { b with flag := some f }
  | .policy p => { b with policy := some p }
  | .maxRetries n => { b with maxRetries := some n }

/-- Set options one after the other. -/
def setAll (b : Builder) (settings : List Setting) : Builder := settings.foldl set b

/-- The flag that is set, or a new one that is false. -/
def ownFlag (b : Builder) (s : Store) : Flag × Store :=
  match b.flag with
  | some f => (f, s)
  | none => s.newFlag false

/-- The profile with the options set, over the given flag. -/
def profile (b : Builder) (flag : Flag) : Profile where
  consistency := b.consistency.getD Profile.defaultConsistency
  timeout := b.timeout.getD Profile.defaultTimeout
  flag := flag
  policy := b.policy.getD (.standardBehind flag)
  hasDefaultPolicy := b.policy.isNone
  maxRetries := b.maxRetries.getD Profile.defaultMaxRetries

/-- Build a profile. -/
def build (b : Builder) (s : Store) : Profile × Store :=
  let (flag, s) := b.ownFlag s
  (b.profile flag, s)

end Builder

/-- The builder with all options of a profile set, except for a default policy. -/
def Profile.toBuilder (p : Profile) : Builder where
  consistency := some p.consistency
  timeout := some p.timeout
  flag := some p.flag
  policy := if p.hasDefaultPolicy then none else some p.policy
  maxRetries := some p.maxRetries

end Reattempt
