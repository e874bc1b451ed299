import Reattempt.Policy.Resolver
import Reattempt.Policy.Rules
import Reattempt.Policy.Stock
import Reattempt.Verdict

/-!
# Policies as layers over a leaf

A policy is a leaf, which answers failures, under any number of layers. A
logging layer remarks on the answers that pass through it. A gate stops
replays of statements that are not idempotent, without asking further.

* `Leaf.decide`, `Leaf.verdict`: the answer of a leaf.
* `Policy.decide`: the answer of a policy, outermost layer first.
* `Policy.gates`: the gates among the layers.
* `Policy.text`: the written form, with the flags' present values.
-/

namespace Reattempt

/-- A policy without layers. -/
inductive Leaf where
  | standard
  | downgrading
  | fallthrough
  /-- A policy of the user's own, which is a function of the failure. -/
  | custom (label : String) (decide : Failure → Decision)

namespace Leaf

/-- A policy given by a table of rules. -/
def ofRules (label : String) (rules : List Rule) (otherwise : Decision) : Leaf :=
  custom label (Rule.decide rules otherwise)

/-- The label of a policy of the user's own. -/
def label? : Leaf → Option String
  | custom label _ => some label
  | _ => none

/-- The answer of a leaf. -/
def decide : Leaf → Failure → Decision
  | standard => Stock.standard
  | downgrading => Stock.downgrading
  | fallthrough => Stock.fallthrough
  | custom _ f => f

/-- What a leaf remarks with its answer: only the downgrading policy, when it lowers a level. -/
def remarks : Leaf → Failure → List Remark
  | downgrading, f =>
    match Stock.downgrading f with
    | .retrySameTarget (some c) => [.lowered f.consistency c]
    | _ => []
  | _, _ => []

/-- The verdict of a leaf: it is asked this once. -/
def verdict (l : Leaf) (f : Failure) : Verdict := ⟨l.decide f, [f], l.remarks f⟩

/-- The written form of a leaf. -/
def text : Leaf → String
  | standard => "DefaultRetryPolicy"
  | downgrading => "DowngradingConsistencyRetryPolicy"
  | fallthrough => "FallthroughRetryPolicy"
  | custom label _ => "Custom(" ++ label ++ ")"

end Leaf

/-- What may stand around a policy. -/
inductive Layer where
  | logging
  | gate (gate : Gate)

/-- A leaf under layers, the outermost first. -/
structure Policy where
  layers : List Layer
  leaf : Leaf

/-- The remark of a logging layer on an answer, unless the answer is to give up. -/
def Verdict.logged (v : Verdict) (f : Failure) : Verdict :=
  if v.decision = .rethrow then v else { v with remarks := v.remarks ++ [.handled f v.decision] }

/-- The verdict of a gate that stops a replay. -/
def Verdict.stopped : Verdict := ⟨.rethrow, [], [.notIdempotent]⟩

namespace Layer

/-- The gate that a layer is. -/
def gate? : Layer → Option Gate
  | logging => none
  | gate g => some g

/-- The answer of a layer, given that of what it stands around. -/
def decide (flags : Flags) (l : Layer) (inner : Failure → Verdict) (f : Failure) : Verdict :=
  match l with
  | logging => (inner f).logged f
  | gate g =>
    if f.category.mayHaveApplied && !g.admits flags f.query then Verdict.stopped else inner f

/-- The written form of a layer around a written form. -/
def text (flags : Flags) (l : Layer) (inner : String) : String :=
  match l with
  | logging => "LoggingRetryPolicy \x7b child_policy: " ++ inner ++ " \x7d"
  | gate g =>
    "IdempotenceAwareRetryPolicy \x7b child_policy: " ++ inner ++
      ", default_idempotence: DefaultIdempotence(" ++ toString (flags g.flag) ++
      "), resolver: " ++ g.resolver.title ++ " \x7d"

end Layer

namespace Policy

/-- A leaf without layers. -/
def ofLeaf (l : Leaf) : Policy := ⟨[], l⟩

/-- A policy with one more layer around it. -/
def under (l : Layer) (p : Policy) : Policy := ⟨l :: p.layers, p.leaf⟩

/-- What the outermost layer stands around. -/
def child? (p : Policy) : Option Policy :=
  match p.layers with
  | [] => none
  | _ :: inner => some ⟨inner, p.leaf⟩

/-- The gates among the layers, the outermost first. -/
def gates (p : Policy) : List Gate := p.layers.filterMap Layer.gate?

/-- The answer of a policy at the flags' present values. -/
def decide (flags : Flags) (p : Policy) : Failure → Verdict :=
  p.layers.foldr (Layer.decide flags) p.leaf.verdict

theorem decide_under (flags : Flags) (l : Layer) (p : Policy) :
    (p.under l).decide flags = l.decide flags (p.decide flags) := rfl

/-- The written form of a policy at the flags' present values. -/
def text (flags : Flags) (p : Policy) : String :=
  p.layers.foldr (Layer.text flags) p.leaf.text

end Policy

end Reattempt
