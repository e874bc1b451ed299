import Reattempt.Policy.Configured

/-!
# Execution profiles

A profile groups the options of executing requests. Its default policy is the
standard one behind a gate that reads the profile's own flag.

* `Profile`: the options.
* `Configured.standardBehind`: the default policy over a flag.
* `Profile.initial`: the profile with all defaults over a flag.
-/

namespace Reattempt

/-- The standard policy behind a gate that goes by declarations and the given flag. -/
def Configured.standardBehind (flag : Flag) : Configured :=
  .extended ((Policy.ofLeaf .standard).under (.gate ⟨flag, .declared⟩))

/-- The options of executing requests. -/
structure Profile where
  consistency : Consistency
  /-- The limit of one attempt. -/
  timeout : Option Duration
  /-- What is assumed of statements that do not declare whether they are idempotent. -/
  flag : Flag
  policy : Configured
  /-- Whether the policy is the default one, and so follows the flag of a derived profile. -/
  hasDefaultPolicy : Bool
  maxRetries : UInt32

namespace Profile

/-- The level where none is set. -/
def defaultConsistency : Consistency := .localQuorum

/-- The limit of one attempt where none is set. -/
def defaultTimeout : Option Duration := some (.ofSeconds 30 0)

/-- The limit on retries where none is set. -/
def defaultMaxRetries : UInt32 := 10

/-- All defaults over a flag. -/
def initial (flag : Flag) : Profile where
  consistency := defaultConsistency
  timeout := defaultTimeout
  flag := flag
  policy := .standardBehind flag
  hasDefaultPolicy := true
  maxRetries := defaultMaxRetries

end Profile

end Reattempt
