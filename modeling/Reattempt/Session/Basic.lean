import Reattempt.Run.Execute
import Reattempt.Session.Spec

/-!
# Sessions

A session holds named objects over one store of shared places. Actions read
and write it, and fail on a name that it does not hold.

* `Session`: the named objects.
* `Action`: a step that may change a session or meet an unknown name.
* `FlagSpec.resolve`, `PolicySpec.resolve`, …: the objects that descriptions
  stand for.
-/

namespace Reattempt

/-- The named objects over one store. -/
structure Session where
  store : Store
  flags : Registry Flag
  policies : Registry Configured
  builders : Registry Builder
  profiles : Registry Profile
  handles : Registry Handle
  statements : Registry Statement
  executors : Registry Executor
  nodes : Registry Node

/-- A session without objects. -/
def Session.empty : Session where
  store := .empty
  flags := .empty
  policies := .empty
  builders := .empty
  profiles := .empty
  handles := .empty
  statements := .empty
  executors := .empty
  nodes := .empty

/-- A name that stands for nothing of the kind asked for. -/
structure UnknownName where
  kind : String
  name : String
  deriving DecidableEq, Repr

/-- The wording of an unknown name. -/
def UnknownName.message (e : UnknownName) : String := "no " ++ e.kind ++ " named " ++ e.name

/-- A step on a session. -/
abbrev Action (α : Type) := StateT Session (Except UnknownName) α

namespace Session

/-- The object under a name. -/
def look {α : Type} (kind : String) (registry : Session → Registry α) (name : String) :
    Action α := do
  match (registry (← get)).get? name with
  | some a => return a
  | none => throw ⟨kind, name⟩

/-- The flag under a name. -/
def flag (name : String) : Action Flag := look "flag" flags name

/-- The configured policy under a name. -/
def policy (name : String) : Action Configured := look "policy" policies name

/-- The builder under a name. -/
def builder (name : String) : Action Builder := look "builder" builders name

/-- The profile under a name. -/
def profile (name : String) : Action Profile := look "profile" profiles name

/-- The handle under a name. -/
def handle (name : String) : Action Handle := look "handle" handles name

/-- The statement under a name. -/
def statement (name : String) : Action Statement := look "statement" statements name

/-- The executor under a name. -/
def executor (name : String) : Action Executor := look "executor" executors name

/-- The node under a name. -/
def node (name : String) : Action Node := look "node" nodes name

/-- Do something to the store. -/
def shared {α : Type} (f : Store → α × Store) : Action α :=
  modifyGet fun s =>
    let (a, store) := f s.store
    (a, { s with store })

/-- What a named write means, as the session's names are now. -/
def effect? (s : Session) : NamedEffect → Option Effect
  | .setFlag name value => (s.flags.get? name).map fun f => .setFlag f value
  | .remap handle profile =>
    match s.handles.get? handle, s.profiles.get? profile with
    | some h, some p => some (.remap h p)
    | _, _ => none

end Session

open Session

/-- The flag that a description stands for. -/
def FlagSpec.resolve : FlagSpec → Action Flag
  | fresh value => shared (·.newFlag value)
  | named name => flag name

/-- The policy that a description stands for. -/
def PolicySpec.resolve : PolicySpec → Action Policy
  | leaf l => return .ofLeaf l
  | logging child => return (← child.resolve).under .logging
  | gated child flag resolver => do
    let p ← child.resolve
    return p.under (.gate ⟨← flag.resolve, resolver⟩)
  | childOf policy => do
    let p ← policy.resolve
    return p.child?.getD p

/-- The configured policy that a description stands for. -/
def ConfiguredSpec.resolve : ConfiguredSpec → Action Configured
  | base policy => return .base (← policy.resolve)
  | extended policy => return .extended (← policy.resolve)
  | named name => Session.policy name
  | ofProfile name => return (← profile name).policy
  | ofHandle name => do
    let h ← handle name
    return ((← get).store.profile h).policy
  | ofStatement name => do
    let s ← statement name
    match s.policy with
    | some p => return p
    | none => throw ⟨"policy of the statement", name⟩

/-- The settings that options stand for, in their order. -/
def Options.resolve (o : Options) : Action (List Setting) := do
  let flag ← o.flag.mapM FlagSpec.resolve
  let policy ← o.policy.mapM PolicySpec.resolve
  let basePolicy ← o.basePolicy.mapM PolicySpec.resolve
  return (o.consistency.map .consistency).toList ++ (o.timeout.map .timeout).toList ++
    (flag.map .flag).toList ++ (policy.map fun p => .policy (.extended p)).toList ++
    (basePolicy.map fun p => .policy (.base p)).toList ++ (o.maxRetries.map .maxRetries).toList

/-- Withdraw an option of a query. -/
def Withdrawal.apply (q : Query) : Withdrawal → Query
  | consistency => { q with consistency := none }
  | isIdempotent => { q with isIdempotent := none }

/-- The query with the changes that concern it. -/
def Changes.query (c : Changes) (q : Query) : Query :=
  let changed : Query :=
    { text := c.text.getD q.text
      consistency := c.consistency.or q.consistency
      isIdempotent := c.isIdempotent.or q.isIdempotent
      timeout := c.timeout.getD q.timeout }
  c.withdrawn.foldl Withdrawal.apply changed

/-- The statement with changes made to it. -/
def Changes.make (c : Changes) (s : Statement) : Action Statement := do
  let policy ← c.policy.mapM (Option.mapM ConfiguredSpec.resolve)
  let handle ← c.handle.mapM (Option.mapM Session.handle)
  return ⟨c.query s.query, policy.getD s.policy, handle.getD s.handle⟩

/-- The statement that a description stands for. -/
def StatementSpec.resolve : StatementSpec → Action Statement
  | named name => statement name
  | fresh text changes => changes.make (.ofText text)

end Reattempt
