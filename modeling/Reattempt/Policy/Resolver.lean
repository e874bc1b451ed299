import Reattempt.Query

/-!
# Idempotence

Whether the replay of a statement is harmless. A statement may declare it; a
shared flag says what holds for those that do not; a resolver combines both.

* `Flag`, `Flags`: the shared flags and their values at one moment.
* `Resolver`: ways to combine a query with the value of a flag.
* `Gate`: a flag with a resolver; `Gate.admits` is its answer for a query.
-/

namespace Reattempt

/-- A shared flag: what is assumed of statements that declare nothing. -/
structure Flag where
  id : Nat
  deriving DecidableEq, Repr

/-- The values of all flags at one moment. -/
abbrev Flags := Flag → Bool

/-- A way to tell whether a query is idempotent, given the value of a flag. -/
structure Resolver where
  /-- The name in written forms. -/
  title : String
  isIdempotent : Query → Bool → Bool

namespace Resolver

/-- What the query declares, or else the flag. -/
def declared : Resolver := ⟨"StatementIdempotence", fun q flag => q.isIdempotent.getD flag⟩

/-- Every query is idempotent. -/
def always : Resolver := ⟨"Always", fun _ _ => true⟩

/-- No query is idempotent. -/
def never : Resolver := ⟨"Never", fun _ _ => false⟩

/-- Reads are idempotent, for other queries their declaration counts, or else the flag. -/
def selectsFirst : Resolver :=
  ⟨"SelectsFirst", fun q flag => q.isSelect || q.isIdempotent.getD flag⟩

/-- The declaration counts; without one, reads are idempotent, and others if the flag says so. -/
def declaredThenSelects : Resolver :=
  ⟨"DeclaredThenSelects", fun q flag => q.isIdempotent.getD (q.isSelect || flag)⟩

end Resolver

/-- A flag with the resolver that reads it. -/
structure Gate where
  flag : Flag
  resolver : Resolver

/-- Whether a gate takes a query for idempotent, at the flags' present values. -/
def Gate.admits (g : Gate) (flags : Flags) (q : Query) : Bool :=
  g.resolver.isIdempotent q (flags g.flag)

end Reattempt
