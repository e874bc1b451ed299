import Reattempt.Proofs.Descent
import Reattempt.Proofs.Writes

/-!
# Where handles are

A session has handles under names, inside executors and inside statements. A
command may make a handle, copy the one at some place to another place, or take
one away; it may let handles point elsewhere, by itself or through the nodes that
it calls; and it does nothing else to handles. Which of these it does can be read
off the command and its answer.

* `Holder`, `Session.held`: the places, and the handles there.
* `Put`, `Command.puts`: what a command puts where.
* `Session.writesOf`: the named writes that are done by a command.
* `Session.Handles`, `Session.Sound.handles_step`: what a command does to handles.
-/

namespace Reattempt

open Session Reattempt.Action

/-- Where a session may have a handle. -/
inductive Holder where
  | handle (name : String)
  | executor (name : String)
  | statement (name : String)
  deriving DecidableEq

/-- What a command puts into a place. -/
inductive Put where
  /-- A handle that is made for it. -/
  | made (label : Option String)
  /-- The handle at another place, if there is one. -/
  | copied (source : Holder)
  /-- No handle. -/
  | cleared

/-- What changes put into the place of the statement they are made to. -/
def Changes.put (c : Changes) (otherwise : Put) : Put :=
  match c.handle with
  | none => otherwise
  | some none => .cleared
  | some (some name) => .copied (.handle name)

/-- The next handle to be made. -/
def Store.nextHandle (s : Store) (label : Option String) : Handle := ⟨s.cellCount, label⟩

theorem Store.cellCount_applyAll (s : Store) (effects : List Effect) :
    (s.applyAll effects).cellCount = s.cellCount := by
  induction effects generalizing s with
  | nil => rfl
  | cons e effects ih =>
    have hstep : (s.apply e).cellCount = s.cellCount := by cases e <;> rfl
    exact (ih (s.apply e)).trans hstep

namespace Command

/-- What a command puts where, if it puts anything. -/
def puts : Command → Option (Holder × Put)
  | .handle (.make name _ label) => some (.handle name, .made label)
  | .handle (.clone name source) => some (.handle name, .copied (.handle source))
  | .handle (.ofExecutor name source) => some (.handle name, .copied (.executor source))
  | .handle (.ofStatement name source) => some (.handle name, .copied (.statement source))
  | .executor (.make name source) => some (.executor name, .copied (.handle source))
  | .executor (.clone name source) => some (.executor name, .copied (.executor source))
  | .statement (.make name _ changes) => some (.statement name, changes.put .cleared)
  | .statement (.clone name source changes) =>
    some (.statement name, changes.put (.copied (.statement source)))
  | _ => none

/-- The name of the profile for which a command makes a handle, and the label. -/
def makes? : Command → Option (String × Option String)
  | .handle (.make _ source label) => some (source, label)
  | _ => none

/-- What a command puts into a place. -/
def put? (c : Command) (place : Holder) : Option Put :=
  match c.puts with
  | some (other, put) => if other = place then some put else none
  | none => none

theorem put?_of_puts {c : Command} {place : Holder} {put : Put} (h : c.puts = some (place, put))
    (other : Holder) : c.put? other = if place = other then some put else none := by
  rw [put?, h]

end Command

namespace Session

/-- The handle at a place. -/
def held (s : Session) : Holder → Option Handle
  | .handle name => s.handles.get? name
  | .executor name => (s.executors.get? name).map Executor.handle
  | .statement name => (s.statements.get? name).bind Statement.handle

/-- The handle that is put into a place. -/
def given (s : Session) : Put → Option Handle
  | .made label => some (s.store.nextHandle label)
  | .copied source => s.held source
  | .cleared => none

/-- The named writes that are done by a command, or during it. -/
def writesOf (s : Session) : Command → Answer → List NamedEffect
  | .handle (.remap handle profile), _ => [.remap handle profile]
  | .executor (.execute ..), .executed report => s.nodes.writes report.attempts
  | _, _ => []

/-- **What a command does to handles.** -/
structure Handles (s : Session) (c : Command) (a : Answer) (s' : Session) : Prop where
  held : ∀ place, s'.held place = match c.put? place with
    | some put => s.given put
    | none => s.held place
  /-- A cell that is there points where the last write lets it point. -/
  profile : ∀ h : Handle, s.store.HasCell h →
    s'.store.profile h = (s.store.applyAll ((s.writesOf c a).filterMap s.effect?)).profile h
  /-- Cells are made one by one. -/
  cellCount : s'.store.cellCount = s.store.cellCount + (if c.makes?.isSome then 1 else 0)
  /-- A cell is made for a profile that has a name. -/
  made : ∀ source label, c.makes? = some (source, label) →
    s.profiles.get? source = some (s'.store.profile (s.store.nextHandle label))

/-- **The same handles**, pointing to the same profiles. -/
structure SameHandles (s s' : Session) : Prop where
  held : s'.held = s.held
  pointee : s'.store.pointee = s.store.pointee
  cellCount : s'.store.cellCount = s.store.cellCount

namespace SameHandles

variable {s s₁ s' : Session}

theorem refl (s : Session) : s.SameHandles s := ⟨rfl, rfl, rfl⟩

theorem trans (h : s.SameHandles s₁) (h' : s₁.SameHandles s') : s.SameHandles s' :=
  ⟨h'.held.trans h.held, h'.pointee.trans h.pointee, h'.cellCount.trans h.cellCount⟩

/-- A command that leaves all handles alone. -/
theorem handles {c : Command} {a : Answer} (h : s.SameHandles s') (hputs : c.puts = none)
    (hmakes : c.makes? = none) (hwrites : s.writesOf c a = []) : s.Handles c a s' where
  held place := by rw [Command.put?, hputs, h.held]
  profile x _ := by
    rw [hwrites]
    exact congrFun h.pointee x.cell
  cellCount := by rw [h.cellCount, hmakes]; rfl
  made source label hm := by rw [hmakes] at hm; cases hm

end SameHandles

theorem MoreFlags.sameHandles {s s' : Session} (h : s.MoreFlags s') : s.SameHandles s' := by
  cases h
  exact ⟨rfl, rfl, rfl⟩

namespace Sound

variable {s s' : Session}

theorem sameHandles_policy (h : s.Sound) {c : PolicyCommand} {a : Answer × List Entry}
    (hrun : c.step.run s = .ok (a, s')) : s.SameHandles s' := by
  cases c with
  | describe policy =>
    obtain ⟨p, s₁, hmore, -, -, hrun⟩ := policy.resolves.first h hrun
    cases hrun
    exact hmore.sameHandles
  | make name policy =>
    obtain ⟨p, s₁, hmore, -, -, hrun⟩ := policy.resolves.first h hrun
    cases hrun
    exact hmore.sameHandles.trans ⟨rfl, rfl, rfl⟩
  | admits flag resolver st =>
    obtain ⟨f, s₁, hmore₁, hs₁, -, hrun⟩ := flag.resolves.first h hrun
    obtain ⟨st, s₂, hmore₂, -, -, hrun⟩ := st.resolves.first hs₁ hrun
    cases hrun
    exact (hmore₁.trans hmore₂).sameHandles
  | ask policy st | decide policy st =>
    obtain ⟨p, s₁, hmore₁, hs₁, -, hrun⟩ := policy.resolves.first h hrun
    obtain ⟨st, s₂, hmore₂, -, -, hrun⟩ := st.resolves.first hs₁ hrun
    cases hrun
    exact (hmore₁.trans hmore₂).sameHandles

theorem sameHandles_flag (h : s.Sound) {c : FlagCommand} {a : Answer}
    (hrun : c.step.run s = .ok (a, s')) : s.SameHandles s' := by
  cases c with
  | make name spec =>
    obtain ⟨f, s₁, hmore, -, -, hrun⟩ := spec.resolves.first h hrun
    cases hrun
    exact hmore.sameHandles.trans ⟨rfl, rfl, rfl⟩
  | ofProfile name source | set name value | view name =>
    obtain ⟨x, -, hrun⟩ := run_look_bind_eq_ok.1 hrun
    cases hrun
    exact ⟨rfl, rfl, rfl⟩

theorem sameHandles_build {name : String} {b : Builder} {a : Answer} (hb : s.store.Knows b.flags)
    (hrun : (do keepProfile name (← shared b.build) : Action Answer).run s = .ok (a, s')) :
    s.SameHandles s' := by
  obtain ⟨hmore, -⟩ := Builder.resolves_build hb
  cases hrun
  exact hmore.sameHandles.trans ⟨rfl, rfl, rfl⟩

theorem sameHandles_builder (h : s.Sound) {c : BuilderCommand} {a : Answer}
    (hrun : c.step.run s = .ok (a, s')) : s.SameHandles s' := by
  have hkeep : ∀ name b (o : Options), (BuilderCommand.keep name b o).run s = .ok (a, s') →
      s.SameHandles s' := by
    intro name b o hrun
    obtain ⟨settings, s₁, hmore, -, -, hrun⟩ := o.resolves.first h hrun
    cases hrun
    exact hmore.sameHandles.trans ⟨rfl, rfl, rfl⟩
  cases c with
  | make name o => exact hkeep name _ o hrun
  | ofProfile name source o | ofHandle name source o | clone name source o =>
    obtain ⟨x, -, hrun⟩ := run_look_bind_eq_ok.1 hrun
    exact hkeep name _ o hrun
  | build name source =>
    obtain ⟨b, hb, hrun⟩ := run_look_bind_eq_ok.1 hrun
    exact sameHandles_build (h.builders source b hb) hrun

theorem sameHandles_profile {c : ProfileCommand} {a : Answer}
    (hrun : c.step.run s = .ok (a, s')) : s.SameHandles s' := by
  cases c with
  | make name =>
    have hblank : s.store.Knows Builder.blank.flags := nofun
    exact sameHandles_build hblank hrun
  | ofHandle name source | view name =>
    obtain ⟨x, -, hrun⟩ := run_look_bind_eq_ok.1 hrun
    cases hrun
    exact ⟨rfl, rfl, rfl⟩

theorem sameHandles_node {c : NodeCommand} {a : Answer} (hrun : c.step.run s = .ok (a, s')) :
    s.SameHandles s' := by
  cases c with
  | make name address script =>
    cases hrun
    exact ⟨rfl, rfl, rfl⟩
  | restart name script | view name =>
    obtain ⟨node, -, hrun⟩ := run_look_bind_eq_ok.1 hrun
    cases hrun
    exact ⟨rfl, rfl, rfl⟩

end Sound

/-- A command that puts a handle into a place, or takes the one there away, and does nothing else to
handles. -/
theorem Handles.put {s s₁ s' : Session} {c : Command} {a : Answer} {place : Holder} {put : Put}
    (hsame : s.SameHandles s₁) (hputs : c.puts = some (place, put)) (hmakes : c.makes? = none)
    (hwrites : s.writesOf c a = []) (hstore : s'.store = s₁.store)
    (hheld : ∀ other, s'.held other = if place = other then s.given put else s₁.held other) :
    s.Handles c a s' where
  held other := by
    rw [hheld, Command.put?_of_puts hputs, hsame.held]
    by_cases ho : place = other <;> simp [ho]
  profile x _ := by
    rw [hwrites, hstore]
    exact congrFun hsame.pointee x.cell
  cellCount := by rw [hstore, hsame.cellCount, hmakes]; rfl
  made source label hm := by rw [hmakes] at hm; cases hm

theorem held_setHandle (s : Session) (name : String) (h : Handle) (place : Holder) :
    { s with handles := s.handles.set name h }.held place =
      if .handle name = place then some h else s.held place := by
  cases place with
  | handle other => simp only [held, Registry.get?_set, Holder.handle.injEq, eq_comm]
  | executor other => rfl
  | statement other => rfl

theorem held_setExecutor (s : Session) (name : String) (x : Executor) (place : Holder) :
    { s with executors := s.executors.set name x }.held place =
      if .executor name = place then some x.handle else s.held place := by
  cases place with
  | executor other =>
    simp only [held, Registry.get?_set, Holder.executor.injEq]
    by_cases h : other = name
    · simp [h]
    · simp [h, Ne.symm h]
  | handle other => rfl
  | statement other => rfl

theorem held_setStatement (s : Session) (name : String) (st : Statement) (place : Holder) :
    { s with statements := s.statements.set name st }.held place =
      if .statement name = place then st.handle else s.held place := by
  cases place with
  | statement other =>
    simp only [held, Registry.get?_set, Holder.statement.injEq]
    by_cases h : other = name
    · simp [h]
    · simp [h, Ne.symm h]
  | handle other => rfl
  | executor other => rfl

/-- The handle of a statement with changes made to it. -/
theorem held_of_make {s s' : Session} {changes : Changes} {st st' : Statement} {otherwise : Put}
    (hs : s.Sound) (hst : s.given otherwise = st.handle)
    (hrun : (changes.make st).run s = .ok (st', s')) :
    s.given (changes.put otherwise) = st'.handle := by
  obtain ⟨policy, s₁, hmore, -, -, hrun⟩ :=
    (Resolves.mapM (Resolves.mapM ConfiguredSpec.resolves) changes.policy).first hs hrun
  obtain ⟨handle, s₂, hhandle, hrun⟩ := run_bind_eq_ok.1 hrun
  cases hrun
  have hhandles : s₁.handles = s.handles := by cases hmore; rfl
  unfold Changes.put
  cases hc : changes.handle with
  | none =>
    rw [hc] at hhandle
    cases hhandle
    exact hst
  | some name? =>
    rw [hc] at hhandle
    obtain ⟨x?, hx, rfl⟩ := run_map_eq_ok.1 hhandle
    cases name? with
    | none =>
      cases hx
      rfl
    | some name =>
      obtain ⟨x, hlook, rfl⟩ := run_map_eq_ok.1 hx
      obtain ⟨hget, rfl⟩ := run_look_eq_ok.1 hlook
      rw [hhandles] at hget
      exact hget

/-- A handle is made and gets a name. -/
theorem handles_made {s : Session} {source : String} {p : Profile} {a : Answer}
    (hp : s.profiles.get? source = some p) (name : String) (label : Option String) :
    s.Handles (.handle (.make name source label)) a
      { s with
        store := (s.store.newHandle p label).2
        handles := s.handles.set name (s.store.newHandle p label).1 } where
  held place := by
    have hheld := held_setHandle { s with store := (s.store.newHandle p label).2 } name
      (s.store.newHandle p label).1 place
    rw [hheld, Command.put?_of_puts rfl]
    by_cases h : Holder.handle name = place
    · simp only [if_pos h]
      rfl
    · simp only [if_neg h]
      cases place <;> rfl
  profile h hcell := if_neg (Nat.ne_of_lt hcell)
  cellCount := rfl
  made source' label' hm := by
    cases hm
    rw [hp]
    exact congrArg some (if_pos rfl).symm

/-- An execution, told by its report, where flags may have been made before it. -/
theorem handles_executed (s : Session) {name : String} {spec : StatementSpec} {names : List String}
    {cycle : Bool} (x : Executor) (st : Statement) (plan : Plan Target) (patience : Option Duration)
    (policy : Configured) (flags : Flags) (count : Nat) :
    let store := { s.store with flags := flags, flagCount := count }
    let r := x.execute st plan (.scripted s.effect?) patience store s.nodes
    s.Handles (.executor (.execute name spec names cycle)) (.executed (.ofRun policy plan r))
      { s with store := r.last.store, nodes := r.last.state } := by
  intro store r
  have hstore : r.last.store =
      store.applyAll ((s.nodes.writes (Report.ofRun policy plan r).attempts).filterMap s.effect?) :=
    x.store_execute st plan s.effect? patience store s.nodes
  refine ⟨fun place => ?_, fun h _ => ?_, ?_, nofun⟩
  · cases place <;> rfl
  · show r.last.store.profile h = _
    rw [hstore, Store.profile_applyAll, Store.profile_applyAll]
    rfl
  · show r.last.store.cellCount = _
    rw [hstore, Store.cellCount_applyAll]
    rfl

namespace Sound

variable {s s' : Session}

theorem handles_statement (h : s.Sound) {c : StatementCommand} {a : Answer}
    (hrun : c.step.run s = .ok (a, s')) : s.Handles (.statement c) a s' := by
  -- a statement with a handle from somewhere gets changes and a name
  have hkeep : ∀ name st changes otherwise, (Command.statement c).puts =
        some (.statement name, changes.put otherwise) → st.Sound s.store →
      s.given otherwise = st.handle →
      (StatementCommand.keep name st changes).run s = .ok (a, s') →
        s.Handles (.statement c) a s' := by
    intro name st changes otherwise hputs hsound hst hrun
    obtain ⟨st', s₁, hmake, hrun⟩ := run_bind_eq_ok.1 hrun
    obtain ⟨hmore, -⟩ := changes.resolves h hsound hmake
    cases hrun
    refine .put hmore.sameHandles hputs rfl rfl rfl fun other => ?_
    rw [held_of_make h hst hmake]
    exact held_setStatement s₁ name st' other
  cases c with
  | make name text changes =>
    exact hkeep name (.ofText text) changes .cleared rfl (.ofText _ text) rfl hrun
  | clone name source changes =>
    obtain ⟨st, hst, hrun⟩ := run_look_bind_eq_ok.1 hrun
    have hheld : s.held (.statement source) = st.handle := by simp [held, hst]
    exact hkeep name st changes (.copied (.statement source)) rfl (h.statements source st hst)
      hheld hrun
  | view name =>
    obtain ⟨st, -, hrun⟩ := run_look_bind_eq_ok.1 hrun
    cases hrun
    exact (SameHandles.refl s).handles rfl rfl rfl

theorem handles_executor (h : s.Sound) {c : ExecutorCommand} {a : Answer × List Entry}
    (hrun : c.step.run s = .ok (a, s')) : s.Handles (.executor c) a.1 s' := by
  cases c with
  | make name source =>
    obtain ⟨x, hx, hrun⟩ := run_look_bind_eq_ok.1 hrun
    cases hrun
    have hgiven : s.given (.copied (.handle source)) = some x := hx
    refine .put (.refl s) rfl rfl rfl rfl fun other => ?_
    rw [hgiven]
    exact held_setExecutor s name ⟨x⟩ other
  | clone name source =>
    obtain ⟨x, hx, hrun⟩ := run_look_bind_eq_ok.1 hrun
    cases hrun
    have hgiven : s.given (.copied (.executor source)) = some x.handle := by simp [given, held, hx]
    refine .put (.refl s) rfl rfl rfl rfl fun other => ?_
    rw [hgiven]
    exact held_setExecutor s name x other
  | execute name st plan cycle =>
    obtain ⟨x, -, hrun⟩ := run_look_bind_eq_ok.1 hrun
    obtain ⟨st, s₁, hmore, -, -, hrun⟩ := st.resolves.first h hrun
    obtain ⟨targets, s₂, htargets, hrun⟩ := run_bind_eq_ok.1 hrun
    obtain rfl := run_targets_eq_ok htargets
    cases hrun
    -- describing the statement may have made flags, which handles do not depend on
    obtain ⟨flags, count, hle⟩ := hmore
    exact handles_executed s x st _ _ _ flags count

theorem handles_handle {c : HandleCommand} {a : Answer} (hrun : c.step.run s = .ok (a, s')) :
    s.Handles (.handle c) a s' := by
  -- a handle from some place gets a name
  have hkeep : ∀ name source x, (Command.handle c).puts = some (.handle name, .copied source) →
      (Command.handle c).makes? = none → s.writesOf (.handle c) a = [] →
      s.held source = some x → (HandleCommand.keep name x).run s = .ok (a, s') →
        s.Handles (.handle c) a s' := by
    intro name source x hputs hmakes hwrites hx hrun
    cases hrun
    have hgiven : s.given (.copied source) = some x := hx
    refine .put (.refl s) hputs hmakes hwrites rfl fun other => ?_
    rw [hgiven]
    exact held_setHandle s name x other
  cases c with
  | make name source label =>
    obtain ⟨p, hp, hrun⟩ := run_look_bind_eq_ok.1 hrun
    cases hrun
    exact handles_made hp name label
  | clone name source =>
    obtain ⟨x, hx, hrun⟩ := run_look_bind_eq_ok.1 hrun
    exact hkeep name (.handle source) x rfl rfl rfl hx hrun
  | ofExecutor name source =>
    obtain ⟨x, hx, hrun⟩ := run_look_bind_eq_ok.1 hrun
    exact hkeep name (.executor source) x.handle rfl rfl rfl (by simp [held, hx]) hrun
  | ofStatement name source =>
    obtain ⟨st, hst, hrun⟩ := run_look_bind_eq_ok.1 hrun
    cases hx : st.handle with
    | none =>
      rw [hx] at hrun
      cases hrun
    | some x =>
      rw [hx] at hrun
      exact hkeep name (.statement source) x rfl rfl rfl (by simp [held, hst, hx]) hrun
  | remap name source =>
    obtain ⟨x, hx, hrun⟩ := run_look_bind_eq_ok.1 hrun
    obtain ⟨p, hp, hrun⟩ := run_look_bind_eq_ok.1 hrun
    cases hrun
    have heffects : ∀ a, (s.writesOf (.handle (.remap name source)) a).filterMap s.effect? =
        [.remap x p] := fun a => by simp [writesOf, effect?, hx, hp]
    refine ⟨fun place => ?_, fun k _ => ?_, rfl, fun _ _ hmakes => ?_⟩
    · cases place <;> rfl
    · rw [heffects]
      rfl
    · cases hmakes
  | view name =>
    obtain ⟨x, -, hrun⟩ := run_look_bind_eq_ok.1 hrun
    cases hrun
    exact (SameHandles.refl s).handles rfl rfl rfl

/-- **What a command does to handles**, one kind of commands after the other. -/
theorem handles_step (h : s.Sound) {c : Command} {a : Answer × List Entry}
    (hrun : (Session.step c).run s = .ok (a, s')) : s.Handles c a.1 s' := by
  cases c with
  | policy c => exact (h.sameHandles_policy hrun).handles rfl rfl rfl
  | flag c => exact (h.sameHandles_flag (run_of_answer hrun)).handles rfl rfl rfl
  | builder c => exact (h.sameHandles_builder (run_of_answer hrun)).handles rfl rfl rfl
  | profile c => exact (sameHandles_profile (run_of_answer hrun)).handles rfl rfl rfl
  | node c => exact (sameHandles_node (run_of_answer hrun)).handles rfl rfl rfl
  | handle c => exact handles_handle (run_of_answer hrun)
  | statement c => exact h.handles_statement (run_of_answer hrun)
  | executor c => exact h.handles_executor hrun

end Sound

end Session

end Reattempt
