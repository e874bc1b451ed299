import Mathlib.Logic.Function.Basic
import Reattempt.Proofs.History
import Reattempt.Proofs.Lineage
import Reattempt.Proofs.Places

/-!
# The ancestry of a session

The lineage of each builder and profile of a session, told from the commands and
their answers. A builder's lineage goes on with the options that are set; a
profile has that of the builder it was built from, and the build; a handle hands
on the lineage of the profile it points to at the time, whoever let it point
there: a command, or a node that was called during an execution.

* `Options.marks`: what options add to a lineage.
* `Ancestry`, `Ancestry.after`, `Ancestry.before`: the lineages, and what commands
  do to them.
* `Registry.writes`: the named writes of nodes that are called.
* `Runs.writes`, `Executor.store_execute`: they are what a run writes.
-/

namespace Reattempt

open Session Reattempt.Action

/-- The lineages of the named builders, of the named profiles and of what the handles' cells
point to. -/
structure Ancestry where
  builders : String → Lineage
  profiles : String → Lineage
  cells : Nat → Lineage

/-- The flag, the policy and the base policy that options describe. -/
def Options.objects (o : Options) : Action (Option Flag × Option Policy × Option Policy) := do
  let flag ← o.flag.mapM FlagSpec.resolve
  let policy ← o.policy.mapM PolicySpec.resolve
  let basePolicy ← o.basePolicy.mapM PolicySpec.resolve
  return (flag, policy, basePolicy)

/-- What options add to the lineage of a builder: each option that is given, in their order. A base
policy is marked as one, and so is the other as an extended one. -/
def Options.marks (o : Options) (s : Session) : Lineage :=
  match o.objects.run s with
  | .ok ((flag, policy, basePolicy), _) =>
    (o.consistency.map fun c => .wrote (.consistency c)).toList ++
      (o.timeout.map fun t => .wrote (.timeout t)).toList ++
      (flag.map fun f => .wrote (.flag f)).toList ++
      (policy.map fun p => .wrote (.policy (.extended p))).toList ++
      (basePolicy.map fun p => .wrote (.policy (.base p))).toList ++
      (o.maxRetries.map fun n => .wrote (.maxRetries n)).toList
  | .error _ => []

/-- **The settings that options stand for** are the writes that they add. -/
theorem Options.marks_eq {o : Options} {s s' : Session} {settings : List Setting}
    (h : o.resolve.run s = .ok (settings, s')) : o.marks s = settings.map .wrote := by
  obtain ⟨flag, s₁, hflag, h⟩ := run_bind_eq_ok.1 h
  obtain ⟨policy, s₂, hpolicy, h⟩ := run_bind_eq_ok.1 h
  obtain ⟨basePolicy, s₃, hbase, h⟩ := run_bind_eq_ok.1 h
  have hobjects : o.objects.run s = .ok ((flag, policy, basePolicy), s₃) :=
    run_bind_eq_ok.2 ⟨flag, s₁, hflag, run_bind_eq_ok.2 ⟨policy, s₂, hpolicy,
      run_bind_eq_ok.2 ⟨basePolicy, s₃, hbase, rfl⟩⟩⟩
  cases h
  have hmap : ∀ {α : Type} (a : Option α) (set : α → Setting),
      (a.map fun x => Mark.wrote (set x)).toList = (a.map set).toList.map .wrote := by
    intro α a set
    cases a <;> rfl
  simp only [marks, hobjects, hmap, List.map_append]

namespace Registry

/-- The reaction of a named node to a call, and the nodes after it. -/
def react (nodes : Registry Node) (name : String) (level : Consistency) :
    Reaction × Registry Node :=
  match nodes.get? name with
  | some node => ((node.react level).1, nodes.set name (node.react level).2)
  | none => (.atOnce, nodes)

/-- The named writes of nodes that are called one after the other. -/
def writes : Registry Node → List (String × Consistency) → List NamedEffect
  | _, [] => []
  | nodes, (name, level) :: calls =>
    (nodes.react name level).1.effects ++ writes (nodes.react name level).2 calls

end Registry

namespace Ancestry

def empty : Ancestry := ⟨fun _ => [], fun _ => [], fun _ => []⟩

def setBuilder (A : Ancestry) (name : String) (L : Lineage) : Ancestry :=
  { A with builders := Function.update A.builders name L }

def setProfile (A : Ancestry) (name : String) (L : Lineage) : Ancestry :=
  { A with profiles := Function.update A.profiles name L }

def setCell (A : Ancestry) (cell : Nat) (L : Lineage) : Ancestry :=
  { A with cells := Function.update A.cells cell L }

theorem builders_setBuilder_self (A : Ancestry) (name : String) (L : Lineage) :
    (A.setBuilder name L).builders name = L := Function.update_self ..

theorem builders_setBuilder_of_ne (A : Ancestry) (L : Lineage) {name other : String}
    (h : other ≠ name) : (A.setBuilder name L).builders other = A.builders other :=
  Function.update_of_ne h ..

theorem profiles_setProfile_self (A : Ancestry) (name : String) (L : Lineage) :
    (A.setProfile name L).profiles name = L := Function.update_self ..

theorem profiles_setProfile_of_ne (A : Ancestry) (L : Lineage) {name other : String}
    (h : other ≠ name) : (A.setProfile name L).profiles other = A.profiles other :=
  Function.update_of_ne h ..

/-- The lineage of the profile that a named handle points to. -/
def ofHandle (A : Ancestry) (s : Session) (name : String) : Lineage :=
  ((s.handles.get? name).map fun h => A.cells h.cell).getD []

/-- A named write: a handle that is remapped hands on the lineage of its new profile. -/
def write (s : Session) (A : Ancestry) : NamedEffect → Ancestry
  | .setFlag _ _ => A
  | .remap handle profile =>
    match s.handles.get? handle, s.profiles.get? profile with
    | some h, some _ => A.setCell h.cell (A.profiles profile)
    | _, _ => A

/-- What a command with a number does to the lineages, in the session before it, when it gets the
given answer. -/
def step (n : Nat) (s : Session) (A : Ancestry) : Command → Answer → Ancestry
  | .builder (.make name o), _ => A.setBuilder name (o.marks s)
  | .builder (.ofProfile name source o), _ =>
    A.setBuilder name (A.profiles source ++ o.marks s)
  | .builder (.ofHandle name source o), _ =>
    A.setBuilder name (A.ofHandle s source ++ o.marks s)
  | .builder (.clone name source o), _ => A.setBuilder name (A.builders source ++ o.marks s)
  | .builder (.build name source), _ => A.setProfile name (A.builders source ++ [.built n])
  | .profile (.make name), _ => A.setProfile name [.built n]
  | .profile (.ofHandle name source), _ => A.setProfile name (A.ofHandle s source)
  | .handle (.make _ source _), _ => A.setCell s.store.cellCount (A.profiles source)
  | .handle (.remap name source), _ => A.write s (.remap name source)
  | .executor (.execute ..), .executed report =>
    (s.nodes.writes report.attempts).foldl (write s) A
  | _, _ => A

/-- The lineages after a command. A command that meets an unknown name changes nothing. -/
def after (n : Nat) (s : Session) (A : Ancestry) (c : Command) : Ancestry :=
  match (Session.step c).run s with
  | .ok ((answer, _), _) => A.step n s c answer
  | .error _ => A

/-- The lineages before the command with a number, where the first one finds no objects. -/
def before (commands : Nat → Command) : Nat → Ancestry
  | 0 => .empty
  | n + 1 => (before commands n).after n (Session.before commands n) (commands n)

end Ancestry

/-! ### Calls -/

theorem Cluster.call_scripted (resolve : NamedEffect → Option Effect) (nodes : Registry Node)
    (target : Target) (level : Consistency) :
    (Cluster.scripted resolve).call nodes target level =
      ((nodes.react target.name level).1.reply resolve level,
        (nodes.react target.name level).2) := by
  simp only [Cluster.scripted, Registry.react]
  cases nodes.get? target.name <;> rfl

/-- **The writes of a run over scripted nodes** are the named writes of the nodes it calls. -/
theorem Runs.writes {ctx : Context} {plan : Plan Target} {resolve : NamedEffect → Option Effect}
    {target : Target} {cur : Cursor (Registry Node)} {r : Run (Registry Node) Target Document}
    (h : Runs ctx plan (.scripted resolve) target cur r) :
    r.attempts.flatMap Attempt.effects =
      (cur.state.writes (r.attempts.map fun a => (a.target.name, a.consistency))).filterMap
        resolve := by
  induction h with
  | @stop target cur r ends =>
    rw [ends.attempts]
    simp [Registry.writes, Cluster.call_scripted, Reaction.reply]
  | @go target next cur cur₁ more r leads rest ih =>
    have hstate : cur₁.state = (cur.state.react target.name cur.consistency).2 := by
      have hcall := congrArg Prod.snd
        (Cluster.call_scripted resolve cur.state target cur.consistency)
      cases leads <;> exact hcall
    rw [hstate] at ih
    simp [Registry.writes, Cluster.call_scripted, Reaction.reply, ih]

/-- **What an execution over scripted nodes writes.** -/
theorem Executor.store_execute (x : Executor) (st : Statement) (plan : Plan Target)
    (resolve : NamedEffect → Option Effect) (patience : Option Duration) (store : Store)
    (nodes : Registry Node) :
    let r := x.execute st plan (.scripted resolve) patience store nodes
    r.last.store = store.applyAll
      ((nodes.writes (r.attempts.map fun a => (a.target.name, a.consistency))).filterMap
        resolve) := by
  intro r
  rcases x.execute_cases st plan (.scripted resolve) patience store nodes with
    ⟨-, hr⟩ | ⟨target, run, -, h, hr⟩
  · rw [show r = _ from hr]
    rfl
  · have hstore : run.last.store = store.applyAll (run.attempts.flatMap Attempt.effects) :=
      h.stands.store
    rw [h.writes] at hstore
    rw [show r = _ from hr]
    exact hstore

end Reattempt
