import Reattempt.Profile.Builder
import Reattempt.Session.Node

/-!
# Descriptions of objects

How the commands of a session describe flags, policies, options and
statements: in place, or by the names of objects of the session.
-/

namespace Reattempt

/-- A flag: a new one, or a named one. -/
inductive FlagSpec where
  | fresh (value : Bool)
  | named (name : String)
  deriving DecidableEq, Repr

/-- A policy, written out. -/
inductive PolicySpec where
  | leaf (leaf : Leaf)
  | logging (child : PolicySpec)
  | gated (child : PolicySpec) (flag : FlagSpec) (resolver : Resolver)
  /-- What the outermost layer of a policy stands around. -/
  | childOf (policy : PolicySpec)

/-- A configured policy: written out, or that of an object. -/
inductive ConfiguredSpec where
  | base (policy : PolicySpec)
  | extended (policy : PolicySpec)
  | named (name : String)
  | ofProfile (name : String)
  | ofHandle (name : String)
  | ofStatement (name : String)

/-- Options of a builder, in the order in which they are set. -/
structure Options where
  consistency : Option Consistency
  timeout : Option (Option Duration)
  flag : Option FlagSpec
  policy : Option PolicySpec
  basePolicy : Option PolicySpec
  maxRetries : Option UInt32

/-- An option of a statement that can be withdrawn. -/
inductive Withdrawal where
  | consistency
  | isIdempotent
  deriving DecidableEq, Repr

/-- Changes to a statement, in the order in which they are made. -/
structure Changes where
  text : Option String
  consistency : Option Consistency
  isIdempotent : Option Bool
  timeout : Option (Option Duration)
  policy : Option (Option ConfiguredSpec)
  handle : Option (Option String)
  withdrawn : List Withdrawal

/-- A statement: a named one, or a new one with changes. -/
inductive StatementSpec where
  | named (name : String)
  | fresh (text : String) (changes : Changes)

end Reattempt
