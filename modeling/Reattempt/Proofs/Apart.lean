import Reattempt.Proofs.Flags
import Reattempt.Proofs.Sharing

/-!
# Sessions that are apart

Two sessions may differ in the values of some flags, and in what their nodes are
up to. The same commands find the same objects in both, and leave them apart as
they were: nothing that a command keeps depends on the value of a flag.

* `Store.Apart`, `Session.Apart`: what may differ.
* `Action.Parallel`: an action does the same in both.
* `FlagSpec.parallel`, `PolicySpec.parallel`, …: so does what describes an object.
* `Command.parallel`, `Session.Apart.after_of_not_execution`: so does each command, but for
  executions.
-/

namespace Reattempt

open Session Reattempt.Action

/-- **Stores that differ at most in the values of changed flags.** -/
structure Store.Apart (changed : Flag → Prop) (s s' : Store) : Prop where
  flags : s.flags.Apart changed s'.flags
  flagCount : s'.flagCount = s.flagCount
  pointee : s'.pointee = s.pointee
  cellCount : s'.cellCount = s.cellCount

/-- **Sessions that differ at most in the values of changed flags**, and in their nodes as far as
the relation between these allows. -/
structure Session.Apart (changed : Flag → Prop) (nodes : Registry Node → Registry Node → Prop)
    (s s' : Session) : Prop extends s.SameNames s' where
  store : s.store.Apart changed s'.store
  nodes : nodes s.nodes s'.nodes

namespace Store.Apart

variable {changed : Flag → Prop} {s s' : Store}

theorem setFlag (h : s.Apart changed s') (f : Flag) (value : Bool) :
    (s.setFlag f value).Apart changed (s'.setFlag f value) where
  flags g hg := by rw [flags_setFlag, flags_setFlag, h.flags g hg]
  flagCount := h.flagCount
  pointee := h.pointee
  cellCount := h.cellCount

theorem newFlag (h : s.Apart changed s') (value : Bool) :
    (s'.newFlag value).1 = (s.newFlag value).1 ∧
      (s.newFlag value).2.Apart changed (s'.newFlag value).2 := by
  have hflag : (s'.newFlag value).1 = (s.newFlag value).1 := congrArg Flag.mk h.flagCount
  refine ⟨hflag, ?_, congrArg (· + 1) h.flagCount, h.pointee, h.cellCount⟩
  intro g hg
  show (s'.setFlag (s'.newFlag value).1 value).flags g = _
  rw [hflag]
  exact (h.setFlag (s.newFlag value).1 value).flags g hg

theorem remap (h : s.Apart changed s') (x : Handle) (p : Profile) :
    (s.remap x p).Apart changed (s'.remap x p) where
  flags := h.flags
  flagCount := h.flagCount
  pointee := by simp only [Store.remap, h.pointee]
  cellCount := h.cellCount

theorem applyAll (h : s.Apart changed s') (effects : List Effect) :
    (s.applyAll effects).Apart changed (s'.applyAll effects) := by
  induction effects generalizing s s' with
  | nil => exact h
  | cons e effects ih =>
    refine ih ?_
    cases e with
    | setFlag f value => exact h.setFlag f value
    | remap x p => exact h.remap x p

theorem newHandle (h : s.Apart changed s') (p : Profile) (label : Option String) :
    (s'.newHandle p label).1 = (s.newHandle p label).1 ∧
      (s.newHandle p label).2.Apart changed (s'.newHandle p label).2 := by
  have hhandle : (s'.newHandle p label).1 = (s.newHandle p label).1 :=
    congrArg (Handle.mk · label) h.cellCount
  refine ⟨hhandle, h.flags, h.flagCount, ?_, congrArg (· + 1) h.cellCount⟩
  show (s'.remap (s'.newHandle p label).1 p).pointee = _
  rw [hhandle]
  exact (h.remap (s.newHandle p label).1 p).pointee

theorem build (h : s.Apart changed s') (b : Builder) :
    (b.build s').1 = (b.build s).1 ∧ (b.build s).2.Apart changed (b.build s').2 := by
  cases hflag : b.flag with
  | some f =>
    rw [Builder.build_of_flag hflag, Builder.build_of_flag hflag]
    exact ⟨rfl, h⟩
  | none =>
    rw [Builder.build_of_none hflag, Builder.build_of_none hflag]
    obtain ⟨hnew, happly⟩ := h.newFlag false
    exact ⟨congrArg b.profile hnew, happly⟩

theorem profile (h : s.Apart changed s') (x : Handle) : s'.profile x = s.profile x :=
  congrFun h.pointee x.cell

end Store.Apart

namespace Action

variable {α β γ δ : Type}

/-- **Alike ends of an action** in two sessions: the same unknown name, or answers that are related
and sessions that are apart as before. -/
inductive Alike (changed : Flag → Prop) (nodes : Registry Node → Registry Node → Prop)
    (same : α → β → Prop) :
    Except UnknownName (α × Session) → Except UnknownName (β × Session) → Prop where
  | ok {a : α} {b : β} {s s' : Session} (hsame : same a b) (hapart : s.Apart changed nodes s') :
      Alike changed nodes same (.ok (a, s)) (.ok (b, s'))
  | error (e : UnknownName) : Alike changed nodes same (.error e) (.error e)

/-- **Actions that do the same** in sessions that are apart. -/
def Parallel (changed : Flag → Prop) (nodes : Registry Node → Registry Node → Prop)
    (same : α → β → Prop) (x : Action α) (y : Action β) : Prop :=
  ∀ ⦃s s' : Session⦄, s.Apart changed nodes s' → Alike changed nodes same (x.run s) (y.run s')

namespace Parallel

variable {changed : Flag → Prop} {nodes : Registry Node → Registry Node → Prop}
  {same : α → β → Prop}

theorem pure {a : α} {b : β} (h : same a b) :
    Parallel changed nodes same (Pure.pure a) (Pure.pure b) :=
  fun _ _ hapart => .ok h hapart

theorem bind {next : γ → δ → Prop} {x : Action α} {y : Action β} {f : α → Action γ}
    {g : β → Action δ} (hx : Parallel changed nodes same x y)
    (hf : ∀ a b, same a b → Parallel changed nodes next (f a) (g b)) :
    Parallel changed nodes next (x >>= f) (y >>= g) := by
  intro s s' hapart
  rw [StateT.run_bind, StateT.run_bind]
  have hend := hx hapart
  generalize x.run s = r at hend
  generalize y.run s' = r' at hend
  cases hend with
  | error e => exact .error e
  | ok hsame hapart => exact hf _ _ hsame hapart

/-- The second part of an action that describes an object: it gets the same object in both. -/
theorem first {next : γ → δ → Prop} {x : Action α} {f : α → Action γ} {g : α → Action δ}
    (hx : Parallel changed nodes Eq x x) (hf : ∀ a, Parallel changed nodes next (f a) (g a)) :
    Parallel changed nodes next (x >>= f) (x >>= g) :=
  hx.bind fun a _ h => h ▸ hf a

theorem throw (e : UnknownName) :
    Parallel changed nodes same (MonadExcept.throw e) (MonadExcept.throw e) :=
  fun _ _ _ => .error e

theorem get : Parallel changed nodes (Session.Apart changed nodes) MonadState.get MonadState.get :=
  fun _ _ hapart => .ok hapart hapart

theorem look {kind name : String} {registry : Session → Registry α}
    (h : ∀ {s s' : Session}, s.SameNames s' → registry s' = registry s) :
    Parallel changed nodes Eq (Session.look kind registry name)
      (Session.look kind registry name) := by
  refine get.bind fun s s' hapart => ?_
  rw [h hapart.toSameNames]
  cases (registry s).get? name with
  | none => exact throw _
  | some a => exact pure rfl

theorem shared {f : Store → α × Store} {g : Store → β × Store}
    (h : ∀ {s s' : Store}, s.Apart changed s' →
      same (f s).1 (g s').1 ∧ (f s).2.Apart changed (g s').2) :
    Parallel changed nodes same (Session.shared f) (Session.shared g) := by
  intro s s' hapart
  obtain ⟨hsame, hstore⟩ := h hapart.store
  exact .ok hsame { hapart with store := hstore }

/-- A write to the store, with nothing to answer. -/
theorem write {f : Store → Store}
    (h : ∀ {s s' : Store}, s.Apart changed s' → (f s).Apart changed (f s')) :
    Parallel changed nodes (fun _ _ => True) (Session.shared fun s => ((), f s))
      (Session.shared fun s => ((), f s)) :=
  shared fun hapart => ⟨trivial, h hapart⟩

theorem modify {f g : Session → Session}
    (h : ∀ {s s' : Session}, s.Apart changed nodes s' → (f s).Apart changed nodes (g s')) :
    Parallel changed nodes (fun _ _ => True) (modify f) (modify g) :=
  fun _ _ hapart => .ok trivial (h hapart)

theorem map {next : γ → δ → Prop} {x : Action α} {y : Action β} {f : α → γ} {g : β → δ}
    (hx : Parallel changed nodes same x y) (hf : ∀ a b, same a b → next (f a) (g b)) :
    Parallel changed nodes next (f <$> x) (g <$> y) := by
  rw [map_eq_pure_bind, map_eq_pure_bind]
  exact hx.bind fun a b h => pure (hf a b h)

theorem mapM_option {f : α → Action β} (hf : ∀ a, Parallel changed nodes Eq (f a) (f a))
    (o : Option α) : Parallel changed nodes Eq (o.mapM f) (o.mapM f) := by
  cases o with
  | none => exact pure rfl
  | some a => exact (hf a).map fun _ _ h => congrArg some h

theorem mapM_list {f : α → Action β} (hf : ∀ a, Parallel changed nodes Eq (f a) (f a))
    (as : List α) : Parallel changed nodes Eq (as.mapM f) (as.mapM f) := by
  induction as with
  | nil => exact pure rfl
  | cons a as ih =>
    rw [List.mapM_cons]
    exact (hf a).first fun b => ih.first fun bs => pure rfl

/-- Whatever is shown of a session, it stays what it is. -/
theorem shown {f : Session → α} {g : Session → β} :
    Parallel changed nodes (fun _ _ => True) (do return f (← MonadState.get))
      (do return g (← MonadState.get)) :=
  get.bind fun _ _ _ => pure trivial

/-- Something is kept in a session, whatever is shown of it then. -/
theorem kept {f : Session → Session} {g g' : Session → α}
    (h : ∀ {s s' : Session}, s.Apart changed nodes s' → (f s).Apart changed nodes (f s')) :
    Parallel changed nodes (fun _ _ => True)
      (do MonadState.modifyGet fun s => ((), f s); return g (← MonadState.get))
      (do MonadState.modifyGet fun s => ((), f s); return g' (← MonadState.get)) :=
  (modify h).bind fun _ _ _ => shown

end Parallel

end Action

/-! ### Descriptions of objects -/

section Descriptions

variable {changed : Flag → Prop} {nodes : Registry Node → Registry Node → Prop}

theorem FlagSpec.parallel (spec : FlagSpec) :
    Parallel changed nodes Eq spec.resolve spec.resolve := by
  cases spec with
  | fresh value => exact .shared fun h => ⟨(h.newFlag value).1.symm, (h.newFlag value).2⟩
  | named name => exact .look fun h => h.flags

theorem PolicySpec.parallel (spec : PolicySpec) :
    Parallel changed nodes Eq spec.resolve spec.resolve := by
  induction spec with
  | leaf l => exact .pure rfl
  | logging child ih => exact ih.first fun p => .pure rfl
  | gated child flag resolver ih =>
    exact ih.first fun p => flag.parallel.first fun f => .pure rfl
  | childOf policy ih => exact ih.first fun p => .pure rfl

theorem ConfiguredSpec.parallel (spec : ConfiguredSpec) :
    Parallel changed nodes Eq spec.resolve spec.resolve := by
  cases spec with
  | base policy | extended policy => exact policy.parallel.first fun p => .pure rfl
  | named name => exact .look fun h => h.policies
  | ofProfile name => exact Parallel.first (.look fun h => h.profiles) fun p => .pure rfl
  | ofHandle name =>
    refine Parallel.first (.look fun h => h.handles) fun x => ?_
    exact Parallel.get.bind fun s s' h => .pure (congrArg Profile.policy (h.store.profile x).symm)
  | ofStatement name =>
    refine Parallel.first (.look fun h => h.statements) fun st => ?_
    cases st.policy with
    | none => exact .throw _
    | some p => exact .pure rfl

theorem Options.parallel (o : Options) :
    Parallel changed nodes Eq o.resolve o.resolve := by
  refine Parallel.first (.mapM_option FlagSpec.parallel o.flag) fun flag => ?_
  refine Parallel.first (.mapM_option PolicySpec.parallel o.policy) fun policy => ?_
  refine Parallel.first (.mapM_option PolicySpec.parallel o.basePolicy) fun basePolicy => ?_
  exact .pure rfl

theorem Changes.parallel (c : Changes) (st : Statement) :
    Parallel changed nodes Eq (c.make st) (c.make st) := by
  refine Parallel.first (.mapM_option (.mapM_option ConfiguredSpec.parallel) c.policy)
    fun policy => ?_
  refine Parallel.first (.mapM_option (.mapM_option fun name => .look fun h => h.handles) c.handle)
    fun handle => ?_
  exact .pure rfl

theorem StatementSpec.parallel (spec : StatementSpec) :
    Parallel changed nodes Eq spec.resolve spec.resolve := by
  cases spec with
  | named name => exact .look fun h => h.statements
  | fresh text changes => exact changes.parallel _

end Descriptions

/-! ### Commands -/

/-- The nodes under the same names have the same addresses. -/
def Registry.SameAddresses (ns ns' : Registry Node) : Prop :=
  ∀ name, (ns'.get? name).map Node.address = (ns.get? name).map Node.address

/-- **A relation between nodes that commands on nodes keep**, and by which a plan finds the same
targets. -/
structure Registry.Steady (nodes : Registry Node → Registry Node → Prop) : Prop where
  addresses : ∀ {ns ns'}, nodes ns ns' → ns.SameAddresses ns'
  set : ∀ {ns ns'}, nodes ns ns' → ∀ name n, nodes (ns.set name n) (ns'.set name n)
  restart : ∀ {ns ns'}, nodes ns ns' → ∀ {name n n'}, ns.get? name = some n →
    ns'.get? name = some n' → ∀ script,
      nodes (ns.set name { n with script := script }) (ns'.set name { n' with script := script })

namespace Registry

theorem SameAddresses.set {ns ns' : Registry Node} (h : ns.SameAddresses ns') (name : String)
    {n n' : Node} (hn : n'.address = n.address) :
    (ns.set name n).SameAddresses (ns'.set name n') := by
  intro other
  rw [get?_set, get?_set]
  split
  · exact congrArg some hn
  · exact h other

theorem steady_eq : Steady Eq where
  addresses h name := by rw [h]
  set h name n := by rw [h]
  restart {ns ns'} h {name n n'} hn hn' script := by
    subst h
    obtain rfl := Option.some.inj (hn.symm.trans hn')
    rfl

theorem steady_sameAddresses : Steady SameAddresses where
  addresses h := h
  set h name n := h.set name rfl
  restart {ns ns'} h {name n n'} hn hn' script := by
    have haddress := h name
    rw [hn, hn'] at haddress
    exact h.set name (Option.some.inj haddress)

end Registry

section Commands

variable {changed : Flag → Prop} {nodes : Registry Node → Registry Node → Prop}

theorem PolicyCommand.parallel (c : PolicyCommand) :
    Parallel changed nodes (fun _ _ => True) c.step c.step := by
  cases c with
  | describe policy =>
    exact policy.parallel.first fun p => Parallel.shown.bind fun _ _ _ => .pure trivial
  | make name policy =>
    refine policy.parallel.first fun p => ?_
    refine (Parallel.modify fun h => ?_).bind fun _ _ _ => Parallel.shown.bind fun _ _ _ =>
      .pure trivial
    exact { h with policies := congrArg (·.set name p) h.policies }
  | admits flag resolver st =>
    exact flag.parallel.first fun f => st.parallel.first fun st => .shown
  | ask policy st | decide policy st =>
    exact policy.parallel.first fun p => st.parallel.first fun st => .shown

theorem FlagCommand.parallel (c : FlagCommand) :
    Parallel changed nodes (fun _ _ => True) c.step c.step := by
  have hkeep : ∀ name f, Parallel changed nodes (fun _ _ => True) (keep name f) (keep name f) :=
    fun name f => .kept fun h => { h with flags := congrArg (·.set name f) h.flags }
  cases c with
  | make name spec => exact spec.parallel.first (hkeep name)
  | ofProfile name source =>
    exact Parallel.first (.look fun h => h.profiles) fun p => hkeep name p.flag
  | set name value =>
    refine Parallel.first (.look fun h => h.flags) fun f => ?_
    exact (Parallel.write fun h => h.setFlag f value).bind fun _ _ _ => .shown
  | view name => exact Parallel.first (.look fun h => h.flags) fun f => .shown

/-- A profile gets a name. -/
theorem keepProfile_parallel (name : String) (p : Profile) :
    Parallel changed nodes (fun _ _ => True) (keepProfile name p) (keepProfile name p) :=
  .kept fun h => { h with profiles := congrArg (·.set name p) h.profiles }

/-- A profile is built and gets a name. -/
theorem Builder.parallel (name : String) (b : Builder) :
    Parallel changed nodes (fun _ _ => True) (do keepProfile name (← Session.shared b.build))
      (do keepProfile name (← Session.shared b.build)) :=
  Parallel.first (.shared fun h => ⟨(h.build b).1.symm, (h.build b).2⟩) (keepProfile_parallel name)

theorem BuilderCommand.parallel (c : BuilderCommand) :
    Parallel changed nodes (fun _ _ => True) c.step c.step := by
  have hkeep : ∀ name b o,
      Parallel changed nodes (fun _ _ => True) (keep name b o) (keep name b o) := fun name b o => by
    refine o.parallel.first fun settings => ?_
    refine (Parallel.modify fun h => ?_).bind fun _ _ _ => .pure trivial
    exact { h with builders := congrArg (·.set name (b.setAll settings)) h.builders }
  cases c with
  | make name o => exact hkeep name .blank o
  | ofProfile name source o =>
    exact Parallel.first (.look fun h => h.profiles) fun p => hkeep name p.toBuilder o
  | ofHandle name source o =>
    refine Parallel.first (.look fun h => h.handles) fun x => Parallel.get.bind fun s s' h => ?_
    rw [h.store.profile x]
    exact hkeep name _ o
  | clone name source o =>
    exact Parallel.first (.look fun h => h.builders) fun b => hkeep name b o
  | build name source => exact Parallel.first (.look fun h => h.builders) fun b => b.parallel name

theorem ProfileCommand.parallel (c : ProfileCommand) :
    Parallel changed nodes (fun _ _ => True) c.step c.step := by
  cases c with
  | make name => exact Builder.blank.parallel name
  | ofHandle name source =>
    refine Parallel.first (.look fun h => h.handles) fun x => Parallel.get.bind fun s s' h => ?_
    rw [h.store.profile x]
    exact keepProfile_parallel name _
  | view name => exact Parallel.first (.look fun h => h.profiles) fun p => .shown

theorem HandleCommand.parallel (c : HandleCommand) :
    Parallel changed nodes (fun _ _ => True) c.step c.step := by
  have hkeep : ∀ name x, Parallel changed nodes (fun _ _ => True) (keep name x) (keep name x) :=
    fun name x => .kept fun h => { h with handles := congrArg (·.set name x) h.handles }
  cases c with
  | make name source label =>
    refine Parallel.first (.look fun h => h.profiles) fun p => ?_
    exact Parallel.first (.shared fun h => ⟨(h.newHandle p label).1.symm, (h.newHandle p label).2⟩)
      (hkeep name)
  | clone name source => exact Parallel.first (.look fun h => h.handles) (hkeep name)
  | ofExecutor name source =>
    exact Parallel.first (.look fun h => h.executors) fun x => hkeep name x.handle
  | ofStatement name source =>
    refine Parallel.first (.look fun h => h.statements) fun st => ?_
    cases st.handle with
    | none => exact .throw _
    | some x => exact hkeep name x
  | remap name source =>
    refine Parallel.first (.look fun h => h.handles) fun x => ?_
    refine Parallel.first (.look fun h => h.profiles) fun p => ?_
    exact (Parallel.write fun h => h.remap x p).bind fun _ _ _ => .shown
  | view name => exact Parallel.first (.look fun h => h.handles) fun x => .shown

theorem StatementCommand.parallel (c : StatementCommand) :
    Parallel changed nodes (fun _ _ => True) c.step c.step := by
  have hkeep : ∀ name st changes,
      Parallel changed nodes (fun _ _ => True) (keep name st changes) (keep name st changes) := by
    intro name st changes
    refine (changes.parallel st).first fun st => Parallel.kept fun h => ?_
    exact { h with statements := congrArg (·.set name st) h.statements }
  cases c with
  | make name text changes => exact hkeep name _ changes
  | clone name source changes =>
    exact Parallel.first (.look fun h => h.statements) fun st => hkeep name st changes
  | view name => exact Parallel.first (.look fun h => h.statements) fun st => .shown

/-- A node is looked up: it has the same address in both. -/
theorem Action.Parallel.node {α β : Type} {same : α → β → Prop}
    (haddresses : ∀ {ns ns'}, nodes ns ns' → ns.SameAddresses ns') {name : String}
    {f : Node → Action α} {g : Node → Action β}
    (hf : ∀ {s s' : Session} {n n' : Node}, s.Apart changed nodes s' →
      s.nodes.get? name = some n → s'.nodes.get? name = some n' → n'.address = n.address →
      Alike changed nodes same ((f n).run s) ((g n').run s')) :
    Parallel changed nodes same (Session.node name >>= f) (Session.node name >>= g) := by
  intro s s' h
  have haddress := haddresses h.nodes name
  simp only [Session.node, run_look_bind]
  cases hn : s.nodes.get? name with
  | none =>
    rw [hn, Option.map_none, Option.map_eq_none_iff] at haddress
    rw [haddress]
    exact .error _
  | some n =>
    rw [hn, Option.map_some, Option.map_eq_some_iff] at haddress
    obtain ⟨n', hn', haddress⟩ := haddress
    rw [hn']
    exact hf h hn hn' haddress

theorem NodeCommand.parallel (hsteady : Registry.Steady nodes) (c : NodeCommand) :
    Parallel changed nodes (fun _ _ => True) c.step c.step := by
  cases c with
  | make name address script =>
    refine (Parallel.modify fun h => ?_).bind fun _ _ _ => .pure trivial
    exact { h with nodes := hsteady.set h.nodes name _ }
  | restart name script =>
    refine .node hsteady.addresses fun h hn hn' _ => .ok trivial ?_
    exact { h with nodes := hsteady.restart h.nodes hn hn' (Script.unfold script) }
  | view name => exact .node hsteady.addresses fun h _ _ _ => .ok trivial h

theorem ExecutorCommand.target_parallel
    (haddresses : ∀ {ns ns'}, nodes ns ns' → ns.SameAddresses ns') (name : String) :
    Parallel changed nodes Eq (target name) (target name) :=
  .node haddresses fun h _ _ haddress => .ok (congrArg (Target.mk name) haddress.symm) h

/-- Whether a command executes a statement. -/
def Command.isExecution : Command → Bool
  | executor (.execute ..) => true
  | _ => false

/-- **A command that is no execution does the same** in sessions that are apart. -/
theorem Command.parallel (hsteady : Registry.Steady nodes) {c : Command}
    (hc : c.isExecution = false) :
    Parallel changed nodes (fun _ _ => True) (Session.step c) (Session.step c) := by
  have hsilent : ∀ {x : Action Answer}, Parallel changed nodes (fun _ _ => True) x x →
      Parallel changed nodes (fun _ _ => True) (do return (← x, ([] : List Entry)))
        (do return (← x, ([] : List Entry))) :=
    fun hx => hx.bind fun _ _ _ => .pure trivial
  have hkeep : ∀ name x, Parallel changed nodes (fun _ _ => True) (ExecutorCommand.keep name x)
      (ExecutorCommand.keep name x) := fun name x =>
    .kept fun h => { h with executors := congrArg (·.set name x) h.executors }
  cases c with
  | policy c => exact c.parallel
  | flag c => exact hsilent c.parallel
  | builder c => exact hsilent c.parallel
  | profile c => exact hsilent c.parallel
  | handle c => exact hsilent c.parallel
  | statement c => exact hsilent c.parallel
  | node c => exact hsilent (c.parallel hsteady)
  | executor c =>
    cases c with
    | make name source =>
      exact Parallel.first (.look fun h => h.handles) fun x => hsilent (hkeep name ⟨x⟩)
    | clone name source =>
      exact Parallel.first (.look fun h => h.executors) fun x => hsilent (hkeep name x)
    | execute name st plan cycle => cases hc

/-- **Commands that are no executions leave sessions apart as they were.** -/
theorem Session.Apart.after_of_not_execution {s s' : Session} (h : s.Apart changed nodes s')
    (hsteady : Registry.Steady nodes) {c : Command} (hc : c.isExecution = false) :
    (s.after c).Apart changed nodes (s'.after c) := by
  have hend := Command.parallel hsteady hc h
  unfold Session.after
  generalize (Session.step c).run s = r at hend
  generalize (Session.step c).run s' = r' at hend
  cases hend with
  | error e => exact h
  | ok _ hapart => exact hapart

end Commands

end Reattempt
