import Reattempt.Session.View

/-!
# Commands

What can be asked of a session, and the answers.
-/

namespace Reattempt

/-- Commands on policies. -/
inductive PolicyCommand where
  | describe (policy : ConfiguredSpec)
  | make (name : String) (policy : ConfiguredSpec)
  /-- Whether a gate takes a statement for idempotent. -/
  | admits (flag : FlagSpec) (resolver : Resolver) (statement : StatementSpec)
  /-- Ask about a failure. -/
  | ask (policy : ConfiguredSpec) (statement : StatementSpec) (consistency : Consistency)
      (retryCount : Nat) (cause : Cause)
  /-- Ask about the error of an attempt. -/
  | decide (policy : ConfiguredSpec) (statement : StatementSpec) (consistency : Consistency)
      (error : AttemptError) (retryCount : Nat)

/-- Commands on flags. -/
inductive FlagCommand where
  | make (name : String) (flag : FlagSpec)
  | ofProfile (name profile : String)
  | set (name : String) (value : Bool)
  | view (name : String)

/-- Commands on builders. -/
inductive BuilderCommand where
  | make (name : String) (options : Options)
  | ofProfile (name profile : String) (options : Options)
  | ofHandle (name handle : String) (options : Options)
  | clone (name source : String) (options : Options)
  | build (name builder : String)

/-- Commands on profiles. -/
inductive ProfileCommand where
  | make (name : String)
  | ofHandle (name handle : String)
  | view (name : String)

/-- Commands on handles. -/
inductive HandleCommand where
  | make (name profile : String) (label : Option String)
  | clone (name source : String)
  | ofExecutor (name executor : String)
  | ofStatement (name statement : String)
  | remap (name profile : String)
  | view (name : String)

/-- Commands on statements. -/
inductive StatementCommand where
  | make (name text : String) (changes : Changes)
  | clone (name source : String) (changes : Changes)
  | view (name : String)

/-- Commands on executors. -/
inductive ExecutorCommand where
  | make (name handle : String)
  | clone (name source : String)
  /-- Execute a statement over a plan of nodes, in order or going round them forever. -/
  | execute (executor : String) (statement : StatementSpec) (plan : List String) (cycle : Bool)

/-- Commands on nodes. -/
inductive NodeCommand where
  | make (name : String) (address : Address) (script : List (Nat × Reaction))
  | restart (name : String) (script : List (Nat × Reaction))
  | view (name : String)

/-- What can be asked of a session. -/
inductive Command where
  | policy (command : PolicyCommand)
  | flag (command : FlagCommand)
  | builder (command : BuilderCommand)
  | profile (command : ProfileCommand)
  | handle (command : HandleCommand)
  | statement (command : StatementCommand)
  | executor (command : ExecutorCommand)
  | node (command : NodeCommand)

/-- Whether a command builds a profile. -/
def Command.isBuild : Command → Bool
  | builder (.build ..) | profile (.make ..) => true
  | _ => false

/-- The answer to a command. -/
inductive Answer where
  | done
  | policy (view : PolicyView)
  | flag (value : Bool)
  | profile (view : ProfileView)
  | handle (view : HandleView)
  | statement (view : StatementView)
  | admitted (isIdempotent : Bool)
  | decided (decision : Decision) (calls : List (String × Failure))
  | address (address : Address)
  /-- The levels of the calls a node has had, and how many reactions are left. -/
  | node (received : List Consistency) (left : Nat)
  | executed (report : Report)

end Reattempt
