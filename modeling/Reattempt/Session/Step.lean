import Reattempt.Session.Command

/-!
# Steps of a session

The answer of a session to each command, with the log entries of what it did.

* `Session.step`: one command.
* `Session.after`, `Session.before`: the session after a command, and along a
  sequence of them.
* `Session.patience`: how long a request is waited for.
-/

namespace Reattempt

open Session

/-- The view of a policy, as the store is now. -/
def showPolicy (c : Configured) : Action Answer := return .policy ((← get).store.viewPolicy c)

/-- The value of a flag, as the store is now. -/
def showFlag (f : Flag) : Action Answer := return .flag ((← get).store.flags f)

/-- The view of a profile, as the store is now. -/
def showProfile (p : Profile) : Action Answer := return .profile ((← get).store.viewProfile p)

/-- The view of a handle, as the store is now. -/
def showHandle (h : Handle) : Action Answer := return .handle ((← get).store.viewHandle h)

/-- The view of a statement, as the store is now. -/
def showStatement (s : Statement) : Action Answer :=
  return .statement ((← get).store.viewStatement s)

/-- The answer that a verdict is, with the remarks made outside any request. -/
def showVerdict (c : Configured) (v : Verdict) : Answer × List Entry :=
  (.decided v.decision (c.calls v), v.remarks.map (Remark.entry none))

namespace PolicyCommand

/-- A command on policies. -/
def step : PolicyCommand → Action (Answer × List Entry)
  | describe policy => return (← showPolicy (← policy.resolve), [])
  | make name policy => do
    let c ← policy.resolve
    modify fun s => { s with policies := s.policies.set name c }
    return (← showPolicy c, [])
  | admits flag resolver st => do
    let gate : Gate := ⟨← flag.resolve, resolver⟩
    let st ← st.resolve
    return (.admitted (gate.admits (← get).store.flags st.query), [])
  | ask policy st consistency retryCount cause => do
    let c ← policy.resolve
    let st ← st.resolve
    return showVerdict c (c.ask (← get).store.flags ⟨st.query, consistency, retryCount, cause⟩)
  | decide policy st consistency error retryCount => do
    let c ← policy.resolve
    let st ← st.resolve
    return showVerdict c (c.decide (← get).store.flags st.query consistency error retryCount)

end PolicyCommand

namespace FlagCommand

/-- Put a flag under a name. -/
def keep (name : String) (f : Flag) : Action Answer := do
  modify fun s => { s with flags := s.flags.set name f }
  showFlag f

/-- A command on flags. -/
def step : FlagCommand → Action Answer
  | make name spec => do keep name (← spec.resolve)
  | ofProfile name source => do keep name (← profile source).flag
  | set name value => do
    let f ← flag name
    shared fun store => ((), store.setFlag f value)
    showFlag f
  | view name => do showFlag (← flag name)

end FlagCommand

/-- Put a profile under a name. -/
def keepProfile (name : String) (p : Profile) : Action Answer := do
  modify fun s => { s with profiles := s.profiles.set name p }
  showProfile p

namespace BuilderCommand

/-- Put a builder under a name, with options set. -/
def keep (name : String) (b : Builder) (options : Options) : Action Answer := do
  let settings ← options.resolve
  modify fun s => { s with builders := s.builders.set name (b.setAll settings) }
  return .done

/-- A command on builders. -/
def step : BuilderCommand → Action Answer
  | make name options => keep name .blank options
  | ofProfile name source options => do keep name (← profile source).toBuilder options
  | ofHandle name source options => do
    let h ← handle source
    keep name ((← get).store.profile h).toBuilder options
  | clone name source options => do keep name (← builder source) options
  | build name source => do
    let b ← builder source
    keepProfile name (← shared b.build)

end BuilderCommand

namespace ProfileCommand

/-- A command on profiles. -/
def step : ProfileCommand → Action Answer
  | make name => do keepProfile name (← shared Builder.blank.build)
  | ofHandle name source => do
    let h ← handle source
    keepProfile name ((← get).store.profile h)
  | view name => do showProfile (← profile name)

end ProfileCommand

namespace HandleCommand

/-- Put a handle under a name. -/
def keep (name : String) (h : Handle) : Action Answer := do
  modify fun s => { s with handles := s.handles.set name h }
  showHandle h

/-- A command on handles. -/
def step : HandleCommand → Action Answer
  | make name source label => do
    let p ← profile source
    keep name (← shared (·.newHandle p label))
  | clone name source => do keep name (← handle source)
  | ofExecutor name source => do keep name (← executor source).handle
  | ofStatement name source => do
    match (← statement source).handle with
    | some h => keep name h
    | none => throw ⟨"handle of the statement", source⟩
  | remap name source => do
    let h ← handle name
    let p ← profile source
    shared fun store => ((), store.remap h p)
    showHandle h
  | view name => do showHandle (← handle name)

end HandleCommand

namespace StatementCommand

/-- Put a statement under a name, with changes made to it. -/
def keep (name : String) (st : Statement) (changes : Changes) : Action Answer := do
  let st ← changes.make st
  modify fun s => { s with statements := s.statements.set name st }
  showStatement st

/-- A command on statements. -/
def step : StatementCommand → Action Answer
  | make name text changes => keep name (.ofText text) changes
  | clone name source changes => do keep name (← statement source) changes
  | view name => do showStatement (← statement name)

end StatementCommand

/-- How long a request is waited for: 1,000,000 seconds. -/
def Session.patience : Duration := .ofSeconds 1000000 0

namespace ExecutorCommand

/-- Put an executor under a name. -/
def keep (name : String) (x : Executor) : Action Answer := do
  modify fun s => { s with executors := s.executors.set name x }
  showHandle x.handle

/-- The target that a named node is. -/
def target (name : String) : Action Target := return ⟨name, (← node name).address⟩

/-- A command on executors. -/
def step : ExecutorCommand → Action (Answer × List Entry)
  | make name source => do return (← keep name ⟨← handle source⟩, [])
  | clone name source => do return (← keep name (← executor source), [])
  | execute name st plan cycle => do
    let x ← executor name
    let st ← st.resolve
    let targets ← plan.mapM target
    let plan : Plan Target := if cycle then .cycle targets else .ofList targets
    let s ← get
    let patience := some Session.patience
    let policy := (x.context st patience s.store).terms.policy
    let r := x.execute st plan (.scripted s.effect?) patience s.store s.nodes
    modify fun s => { s with store := r.last.store, nodes := r.last.state }
    return (.executed (.ofRun policy plan r), r.events.map Event.entry)

end ExecutorCommand

namespace NodeCommand

/-- A command on nodes. -/
def step : NodeCommand → Action Answer
  | make name address script => do
    modify fun s => { s with nodes := s.nodes.set name ⟨address, Script.unfold script, []⟩ }
    return .address address
  | restart name script => do
    let n ← node name
    modify fun s => { s with nodes := s.nodes.set name { n with script := Script.unfold script } }
    return .done
  | view name => do
    let n ← node name
    return .node n.received n.script.length

end NodeCommand

/-- **One command**, with the log entries of what it did. -/
def Session.step : Command → Action (Answer × List Entry)
  | .policy c => c.step
  | .flag c => return (← c.step, [])
  | .builder c => return (← c.step, [])
  | .profile c => return (← c.step, [])
  | .handle c => return (← c.step, [])
  | .statement c => return (← c.step, [])
  | .executor c => c.step
  | .node c => return (← c.step, [])

/-- The session after a command. A command that meets an unknown name changes nothing. -/
def Session.after (s : Session) (c : Command) : Session :=
  match (Session.step c).run s with
  | .ok (_, s') => s'
  | .error _ => s

/-- The session before the command with a number, where the first one finds no objects. -/
def Session.before (commands : Nat → Command) : Nat → Session
  | 0 => .empty
  | n + 1 => (before commands n).after (commands n)

end Reattempt
