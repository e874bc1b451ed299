import Reattempt.Document
import Reattempt.Session.Registry
import Reattempt.Run.Attempt

/-!
# Scripted nodes

A node that answers calls by a script, one reaction after the other. When the
script is over, it answers every call at once.

* `Reaction`: what a node does when it is called.
* `Script.unfold`: a script written with repetitions.
* `Node.react`: the next reaction of a node, and what is left.
* `Reaction.reply`: a reaction as the reply to a call at a level.
-/

namespace Reattempt

/-- A write to a named shared place. -/
inductive NamedEffect where
  | setFlag (name : String) (value : Bool)
  | remap (handle profile : String)
  deriving DecidableEq, Repr

/-- How a reaction ends. -/
inductive Ending where
  /-- It never does. -/
  | hang
  /-- With an error, which may speak of the level of the call. -/
  | fail (error : Consistency → AttemptError)
  | respond (response : Document)
  /-- With the title of the call's level as the response. -/
  | echo

/-- What a node does when it is called. -/
structure Reaction where
  effects : List NamedEffect
  delay : Duration
  ending : Ending

namespace Reaction

/-- The reaction of a node whose script is over. -/
def atOnce : Reaction := ⟨[], ⟨0⟩, .echo⟩

/-- A reaction as the reply to a call, given the meaning of the names in it. -/
def reply (resolve : NamedEffect → Option Effect) (r : Reaction) (level : Consistency) :
    Reply Document where
  effects := r.effects.filterMap resolve
  answer :=
    match r.ending with
    | .hang => none
    | .fail error => some (r.delay, .error (error level))
    | .respond response => some (r.delay, .ok response)
    | .echo => some (r.delay, .ok (.text level.title))

end Reaction

/-- The reactions of a script in which each may be repeated. -/
def Script.unfold (script : List (Nat × Reaction)) : List Reaction :=
  script.flatMap fun (times, r) => List.replicate times r

/-- A target that answers by a script. -/
structure Node where
  address : Address
  /-- The reactions that are left. -/
  script : List Reaction
  /-- The levels of the calls so far. -/
  received : List Consistency

namespace Node

/-- The next reaction, to a call at a level, and the node after it. -/
def react (n : Node) (level : Consistency) : Reaction × Node :=
  (n.script.headD .atOnce,
    { n with script := n.script.tail, received := n.received ++ [level] })

end Node

/-- A node in a plan: its name and address. -/
structure Target where
  name : String
  address : Address
  deriving DecidableEq, Repr

/-- The cluster of scripted nodes, given the meaning of the names in their scripts. -/
def Cluster.scripted (resolve : NamedEffect → Option Effect) :
    Cluster (Registry Node) Target Document where
  address := Target.address
  call nodes target level :=
    match nodes.get? target.name with
    | some node =>
      let (reaction, node) := node.react level
      (reaction.reply resolve level, nodes.set target.name node)
    | none => (Reaction.atOnce.reply resolve level, nodes)

end Reattempt
