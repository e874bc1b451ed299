import Reattempt.Proofs.Ancestry

/-!
# Descent

Whatever commands are done, the lineages tell what the builders and profiles of
the session are. One command preserves that, whether it sets options, builds,
derives, remaps a handle or executes a statement over nodes that do; so every
sequence of commands does.

* `Ancestry.Tells`: the lineages tell the builders and profiles of a session.
* `Ancestry.Tells.builder`, `Ancestry.Tells.handle`, …: what the commands preserve.
* `Ancestry.Tells.step`, `Ancestry.tells_before`: one command, and all of them.
* `Session.flagCount_before_mono`: flags are never lost.
-/

namespace Reattempt

open Session Reattempt.Action

/-- **A build that makes a flag**: the next one, which is false, for the profile that is built. -/
structure Session.Founds (s : Session) (c : Command) (s' : Session) : Prop where
  isBuild : c.isBuild = true
  store : s'.store = (s.store.newFlag false).2
  profile : ∃ name p, s'.profiles.get? name = some p ∧ p.flag = (s.store.newFlag false).1

/-- **The lineages tell the builders and profiles** of a session in which all places have been
made: those under names, and those that handles may point to. At least so many flags have been
`made`. -/
structure Ancestry.Tells (born : Nat → Flag) (fresh : Nat → Prop) (made : Nat) (A : Ancestry)
    (s : Session) : Prop extends s.Sound where
  flagCount : made ≤ s.store.flagCount
  ofBuilders : s.builders.All fun name b => b.Descends born fresh (A.builders name)
  ofProfiles : s.profiles.All fun name p => p.Descends born fresh (A.profiles name)
  ofCells : ∀ c < s.store.cellCount, (s.store.pointee c).Descends born fresh (A.cells c)

namespace Ancestry.Tells

variable {born : Nat → Flag} {fresh : Nat → Prop} {made : Nat} {A : Ancestry} {s s' : Session}

theorem empty : Ancestry.empty.Tells born fresh 0 Session.empty :=
  ⟨.empty, Nat.le_refl _, .empty, .empty, nofun⟩

theorem moreFlags (h : A.Tells born fresh made s) (hmore : s.MoreFlags s') :
    A.Tells born fresh made s' := by
  have hsound := h.toSound.moreFlags hmore
  have hcount := Nat.le_trans h.flagCount hmore.count_le
  cases hmore
  exact
    { hsound with
      flagCount := hcount
      ofBuilders := h.ofBuilders
      ofProfiles := h.ofProfiles
      ofCells := h.ofCells }

/-! ### Commands that leave the lineages as they are -/

theorem policy (h : A.Tells born fresh made s) {c : PolicyCommand} {a : Answer × List Entry}
    (hrun : c.step.run s = .ok (a, s')) : A.Tells born fresh made s' := by
  cases c with
  | describe policy =>
    obtain ⟨p, s₁, hmore, -, -, hrun⟩ := policy.resolves.first h.toSound hrun
    cases hrun
    exact h.moreFlags hmore
  | make name policy =>
    obtain ⟨p, s₁, hmore, -, hp, hrun⟩ := policy.resolves.first h.toSound hrun
    cases hrun
    have h₁ := h.moreFlags hmore
    exact { h₁ with policies := h₁.policies.put hp }
  | admits flag resolver st =>
    obtain ⟨f, s₁, hmore₁, hs₁, -, hrun⟩ := flag.resolves.first h.toSound hrun
    obtain ⟨st, s₂, hmore₂, -, -, hrun⟩ := st.resolves.first hs₁ hrun
    cases hrun
    exact h.moreFlags (hmore₁.trans hmore₂)
  | ask policy st | decide policy st =>
    obtain ⟨p, s₁, hmore₁, hs₁, -, hrun⟩ := policy.resolves.first h.toSound hrun
    obtain ⟨st, s₂, hmore₂, -, -, hrun⟩ := st.resolves.first hs₁ hrun
    cases hrun
    exact h.moreFlags (hmore₁.trans hmore₂)

theorem flag (h : A.Tells born fresh made s) {c : FlagCommand} {a : Answer}
    (hrun : c.step.run s = .ok (a, s')) : A.Tells born fresh made s' := by
  cases c with
  | make name spec =>
    obtain ⟨f, s₁, hmore, -, hf, hrun⟩ := spec.resolves.first h.toSound hrun
    cases hrun
    have h₁ := h.moreFlags hmore
    exact { h₁ with flags := h₁.flags.put hf }
  | ofProfile name source =>
    obtain ⟨p, hp, hrun⟩ := run_look_bind_eq_ok.1 hrun
    cases hrun
    have hflag : s.store.Knows [p.flag] := fun f hf =>
      h.profiles source p hp f (List.mem_singleton.1 hf ▸ List.mem_cons_self)
    exact { h with flags := h.flags.put hflag }
  | set name value =>
    obtain ⟨f, -, hrun⟩ := run_look_bind_eq_ok.1 hrun
    cases hrun
    exact h.moreFlags ⟨_, _, Nat.le_refl _⟩
  | view name =>
    obtain ⟨f, -, hrun⟩ := run_look_bind_eq_ok.1 hrun
    cases hrun
    exact h

theorem statement (h : A.Tells born fresh made s) {c : StatementCommand} {a : Answer}
    (hrun : c.step.run s = .ok (a, s')) : A.Tells born fresh made s' := by
  have hkeep : ∀ name st changes, st.Sound s.store →
      (StatementCommand.keep name st changes).run s = .ok (a, s') → A.Tells born fresh made s' := by
    intro name st changes hst hrun
    obtain ⟨st', s₁, hmake, hrun⟩ := run_bind_eq_ok.1 hrun
    obtain ⟨hmore, hst'⟩ := changes.resolves h.toSound hst hmake
    cases hrun
    have h₁ := h.moreFlags hmore
    exact { h₁ with statements := h₁.statements.set hst' fun _ _ _ hst => hst }
  cases c with
  | make name text changes => exact hkeep name _ changes (.ofText _ text) hrun
  | clone name source changes =>
    obtain ⟨st, hst, hrun⟩ := run_look_bind_eq_ok.1 hrun
    exact hkeep name st changes (h.statements source st hst) hrun
  | view name =>
    obtain ⟨st, -, hrun⟩ := run_look_bind_eq_ok.1 hrun
    cases hrun
    exact h

theorem node (h : A.Tells born fresh made s) {c : NodeCommand} {a : Answer}
    (hrun : c.step.run s = .ok (a, s')) : A.Tells born fresh made s' := by
  cases c with
  | make name address script =>
    cases hrun
    exact { h with }
  | restart name script | view name =>
    obtain ⟨node, -, hrun⟩ := run_look_bind_eq_ok.1 hrun
    cases hrun
    exact { h with }

/-! ### Commands on builders, profiles and handles -/

/-- A profile of a lineage gets a name. -/
theorem nameProfile (h : A.Tells born fresh made s) {name : String} {p : Profile} {L : Lineage}
    (hp : s.store.Knows p.flags) (hL : p.Descends born fresh L) :
    (A.setProfile name L).Tells born fresh made { s with profiles := s.profiles.set name p } := by
  have hdescends : p.Descends born fresh ((A.setProfile name L).profiles name) := by
    rwa [profiles_setProfile_self]
  exact
    { h with
      profiles := h.profiles.put hp
      ofProfiles := h.ofProfiles.set hdescends fun other _ hne hp => by
        rwa [profiles_setProfile_of_ne _ _ hne] }

/-- A profile is built and gets a name. -/
theorem build {n : Nat} (h : A.Tells born fresh made s) {c : Command} (hc : c.isBuild = true)
    {name : String} {b : Builder} {L : Lineage} {a : Answer}
    (hrun : (do keepProfile name (← shared b.build) : Action Answer).run s = .ok (a, s'))
    (hb : s.store.Knows b.flags) (hL : b.Descends born fresh L)
    (hborn : born n = ⟨s.store.flagCount⟩) (hfresh : s.Founds c s' → fresh n) :
    (A.setProfile name (L ++ [.built n])).Tells born fresh made s' := by
  obtain ⟨hmore, hflags⟩ := Builder.resolves_build hb
  cases hrun
  refine (h.moreFlags hmore).nameProfile hflags (hL.build hborn fun hnone => hfresh ?_)
  -- the builder has no flag, so the store has one more after the build
  have hbuild := Builder.build_of_none hnone s.store
  have hname : (s.profiles.set name (b.build s.store).1).get? name = some (b.build s.store).1 := by
    rw [Registry.get?_set, if_pos rfl]
  have hstore : (b.build s.store).2 = (s.store.newFlag false).2 := by rw [hbuild]
  have hflag : (b.build s.store).1.flag = (s.store.newFlag false).1 := by
    rw [hbuild]
    rfl
  exact ⟨hc, hstore, name, _, hname, hflag⟩

theorem builder {n : Nat} (h : A.Tells born fresh made s) {c : BuilderCommand} {a : Answer}
    (hrun : c.step.run s = .ok (a, s')) (hborn : born n = ⟨s.store.flagCount⟩)
    (hfresh : s.Founds (.builder c) s' → fresh n) :
    (A.step n s (.builder c) a).Tells born fresh made s' := by
  -- in each case but the last, a builder of some lineage gets options and a name
  have hkeep : ∀ name b L o, s.store.Knows b.flags → b.Descends born fresh L →
      (BuilderCommand.keep name b o).run s = .ok (a, s') →
        (A.setBuilder name (L ++ o.marks s)).Tells born fresh made s' := by
    intro name b L o hb hL hrun
    obtain ⟨settings, s₁, hresolve, hrun⟩ := run_bind_eq_ok.1 hrun
    obtain ⟨hmore, hsettings⟩ := o.resolves h.toSound hresolve
    cases hrun
    have h₁ := h.moreFlags hmore
    have hmarks : o.marks s = settings.map .wrote := Options.marks_eq hresolve
    have hflags : s₁.store.Knows (b.setAll settings).flags := fun f hf => by
      rcases Builder.mem_flags_setAll hf with hf | ⟨x, hx, hf⟩
      · exact hb.mono hmore.count_le f hf
      · exact hsettings x hx f hf
    have hdescends : (b.setAll settings).Descends born fresh
        ((A.setBuilder name (L ++ o.marks s)).builders name) := by
      rw [builders_setBuilder_self, hmarks]
      exact hL.setAll settings
    exact
      { h₁ with
        builders := h₁.builders.put hflags
        ofBuilders := h₁.ofBuilders.set hdescends fun other _ hne hb => by
          rwa [builders_setBuilder_of_ne _ _ hne] }
  cases c with
  | make name o => exact hkeep name .blank [] o nofun .blank hrun
  | ofProfile name source o =>
    obtain ⟨p, hp, hrun⟩ := run_look_bind_eq_ok.1 hrun
    have hknows := h.profiles source p hp
    exact hkeep name _ _ o (fun f hf => hknows f (Profile.mem_flags_toBuilder hf))
      (h.ofProfiles source p hp).toBuilder hrun
  | ofHandle name source o =>
    obtain ⟨x, hx, hrun⟩ := run_look_bind_eq_ok.1 hrun
    have hcell := h.handles source x hx
    have hL : A.ofHandle s source = A.cells x.cell := by simp [ofHandle, hx]
    have hknows := h.cells x.cell hcell
    have hdescends := (h.ofCells x.cell hcell).toBuilder
    rw [← hL] at hdescends
    exact hkeep name _ _ o (fun f hf => hknows f (Profile.mem_flags_toBuilder hf)) hdescends hrun
  | clone name source o =>
    obtain ⟨b, hb, hrun⟩ := run_look_bind_eq_ok.1 hrun
    exact hkeep name b _ o (h.builders source b hb) (h.ofBuilders source b hb) hrun
  | build name source =>
    obtain ⟨b, hb, hrun⟩ := run_look_bind_eq_ok.1 hrun
    exact h.build rfl hrun (h.builders source b hb) (h.ofBuilders source b hb) hborn hfresh

theorem profile {n : Nat} (h : A.Tells born fresh made s) {c : ProfileCommand} {a : Answer}
    (hrun : c.step.run s = .ok (a, s')) (hborn : born n = ⟨s.store.flagCount⟩)
    (hfresh : s.Founds (.profile c) s' → fresh n) :
    (A.step n s (.profile c) a).Tells born fresh made s' := by
  cases c with
  | make name =>
    have hblank : s.store.Knows Builder.blank.flags := nofun
    exact h.build rfl hrun hblank .blank hborn hfresh
  | ofHandle name source =>
    obtain ⟨x, hx, hrun⟩ := run_look_bind_eq_ok.1 hrun
    cases hrun
    have hcell := h.handles source x hx
    have hL : A.ofHandle s source = A.cells x.cell := by simp [ofHandle, hx]
    have hdescends := h.ofCells x.cell hcell
    rw [← hL] at hdescends
    exact h.nameProfile (h.cells x.cell hcell) hdescends
  | view name =>
    obtain ⟨p, -, hrun⟩ := run_look_bind_eq_ok.1 hrun
    cases hrun
    exact h

/-- A cell points to a profile of a lineage, where it may be the next cell to be made. -/
theorem setCell (h : A.Tells born fresh made s) {cell count : Nat} {p : Profile} {L : Lineage}
    (hp : s.store.Knows p.flags) (hL : p.Descends born fresh L) (hle : s.store.cellCount ≤ count)
    (hcount : ∀ c < count, c = cell ∨ c < s.store.cellCount) :
    (A.setCell cell L).Tells born fresh made
      { s with store := { s.store.remap ⟨cell, none⟩ p with cellCount := count } } := by
  have hcells : ∀ c < count,
      s.store.Knows ((s.store.remap ⟨cell, none⟩ p).pointee c).flags ∧
        ((s.store.remap ⟨cell, none⟩ p).pointee c).Descends born fresh
          ((A.setCell cell L).cells c) := by
    intro c hc
    by_cases hcell : c = cell
    · have hnew : (s.store.remap ⟨cell, none⟩ p).pointee c = p := if_pos hcell
      have hlineage : (A.setCell cell L).cells c = L := hcell ▸ Function.update_self ..
      rw [hnew, hlineage]
      exact ⟨hp, hL⟩
    · have hold : (s.store.remap ⟨cell, none⟩ p).pointee c = s.store.pointee c := if_neg hcell
      have hlineage : (A.setCell cell L).cells c = A.cells c := Function.update_of_ne hcell ..
      have hmade := (hcount c hc).resolve_left hcell
      rw [hold, hlineage]
      exact ⟨h.cells c hmade, h.ofCells c hmade⟩
  exact
    { h with
      handles := h.handles.mono fun _ _ hx => Nat.lt_of_lt_of_le hx hle
      statements := h.statements.mono fun _ _ hst =>
        ⟨hst.flags, fun x hx => Nat.lt_of_lt_of_le (hst.handle x hx) hle⟩
      executors := h.executors.mono fun _ _ hx => Nat.lt_of_lt_of_le hx hle
      cells := fun c hc => (hcells c hc).1
      ofCells := fun c hc => (hcells c hc).2 }

/-- A named write, where the names stand for what they stand for in the session. -/
theorem write (h : A.Tells born fresh made s) (effect : NamedEffect) :
    (A.write s effect).Tells born fresh made
      { s with store := s.store.applyAll (s.effect? effect).toList } := by
  cases effect with
  | setFlag name value =>
    cases hf : s.flags.get? name with
    | none =>
      simp only [effect?, hf, Option.map_none]
      exact h
    | some f =>
      simp only [effect?, hf, Option.map_some]
      exact h.moreFlags ⟨_, _, Nat.le_refl _⟩
  | remap handle profile =>
    cases hx : s.handles.get? handle with
    | none =>
      simp only [effect?, Ancestry.write, hx]
      exact h
    | some x =>
      cases hp : s.profiles.get? profile with
      | none =>
        simp only [effect?, Ancestry.write, hx, hp]
        exact h
      | some p =>
        simp only [effect?, Ancestry.write, hx, hp]
        exact h.setCell (h.profiles profile p hp) (h.ofProfiles profile p hp) (Nat.le_refl _)
          fun _ hc => .inr hc

theorem handle {n : Nat} (h : A.Tells born fresh made s) {c : HandleCommand} {a : Answer}
    (hrun : c.step.run s = .ok (a, s')) : (A.step n s (.handle c) a).Tells born fresh made s' := by
  have hkeep : ∀ name (x : Handle), s.store.HasCell x →
      A.Tells born fresh made { s with handles := s.handles.set name x } := fun name x hx =>
    { h with handles := h.handles.put hx }
  cases c with
  | make name source label =>
    obtain ⟨p, hp, hrun⟩ := run_look_bind_eq_ok.1 hrun
    cases hrun
    have h₁ := h.setCell (h.profiles source p hp) (h.ofProfiles source p hp) (Nat.le_succ _)
      fun c hc => (Nat.lt_succ_iff_lt_or_eq.1 hc).symm
    have hcell : s.store.cellCount < s.store.cellCount + 1 := Nat.lt_succ_self _
    exact { h₁ with handles := h₁.handles.put hcell }
  | clone name source =>
    obtain ⟨x, hx, hrun⟩ := run_look_bind_eq_ok.1 hrun
    cases hrun
    exact hkeep name x (h.handles source x hx)
  | ofExecutor name source =>
    obtain ⟨x, hx, hrun⟩ := run_look_bind_eq_ok.1 hrun
    cases hrun
    exact hkeep name x.handle (h.executors source x hx)
  | ofStatement name source =>
    obtain ⟨st, hst, hrun⟩ := run_look_bind_eq_ok.1 hrun
    cases hx : st.handle with
    | none =>
      rw [hx] at hrun
      cases hrun
    | some x =>
      rw [hx] at hrun
      cases hrun
      exact hkeep name x ((h.statements source st hst).handle x hx)
  | remap name source =>
    obtain ⟨x, hx, hrun⟩ := run_look_bind_eq_ok.1 hrun
    obtain ⟨p, hp, hrun⟩ := run_look_bind_eq_ok.1 hrun
    cases hrun
    have hwrite := h.write (.remap name source)
    simp only [effect?, hx, hp] at hwrite
    exact hwrite
  | view name =>
    obtain ⟨x, -, hrun⟩ := run_look_bind_eq_ok.1 hrun
    cases hrun
    exact h

/-! ### Executions -/

theorem writes (h : A.Tells born fresh made s) (effects : List NamedEffect) :
    (effects.foldl (Ancestry.write s) A).Tells born fresh made
      { s with store := s.store.applyAll (effects.filterMap s.effect?) } := by
  induction effects generalizing A s with
  | nil => exact h
  | cons e effects ih =>
    have hrest := ih (h.write e)
    -- a write changes the store, but not what names stand for
    have hwrite : Ancestry.write { s with store := s.store.applyAll (s.effect? e).toList } =
        Ancestry.write s := rfl
    have heffect : Session.effect? { s with store := s.store.applyAll (s.effect? e).toList } =
        s.effect? := rfl
    have happly : (s.store.applyAll (s.effect? e).toList).applyAll (effects.filterMap s.effect?) =
        s.store.applyAll ((e :: effects).filterMap s.effect?) := by
      rw [List.filterMap_cons]
      cases s.effect? e <;> rfl
    rw [hwrite, heffect, happly] at hrest
    exact hrest

/-- An execution, told by its report. -/
theorem executed (h : A.Tells born fresh made s) (x : Executor) (st : Statement)
    (plan : Plan Target) (patience : Option Duration) (policy : Configured) :
    let r := x.execute st plan (.scripted s.effect?) patience s.store s.nodes
    ((s.nodes.writes (Report.ofRun policy plan r).attempts).foldl (Ancestry.write s) A).Tells
      born fresh made { s with store := r.last.store, nodes := r.last.state } := by
  intro r
  have hwrites := h.writes (s.nodes.writes (Report.ofRun policy plan r).attempts)
  have hstore : s.store.applyAll
      ((s.nodes.writes (Report.ofRun policy plan r).attempts).filterMap s.effect?) = r.last.store :=
    (x.store_execute st plan s.effect? patience s.store s.nodes).symm
  rw [hstore] at hwrites
  exact { hwrites with }

theorem executor {n : Nat} (h : A.Tells born fresh made s) {c : ExecutorCommand}
    {a : Answer × List Entry} (hrun : c.step.run s = .ok (a, s')) :
    (A.step n s (.executor c) a.1).Tells born fresh made s' := by
  have hkeep : ∀ name (x : Executor), s.store.HasCell x.handle →
      A.Tells born fresh made { s with executors := s.executors.set name x } := fun name x hx =>
    { h with executors := h.executors.put hx }
  cases c with
  | make name source =>
    obtain ⟨x, hx, hrun⟩ := run_look_bind_eq_ok.1 hrun
    cases hrun
    exact hkeep name ⟨x⟩ (h.handles source x hx)
  | clone name source =>
    obtain ⟨x, hx, hrun⟩ := run_look_bind_eq_ok.1 hrun
    cases hrun
    exact hkeep name x (h.executors source x hx)
  | execute name st plan cycle =>
    obtain ⟨x, -, hrun⟩ := run_look_bind_eq_ok.1 hrun
    obtain ⟨st, s₁, hmore, -, -, hrun⟩ := st.resolves.first h.toSound hrun
    obtain ⟨targets, s₂, htargets, hrun⟩ := run_bind_eq_ok.1 hrun
    obtain rfl := run_targets_eq_ok htargets
    cases hrun
    -- describing the statement may have made flags, and left everything else
    have hexecuted := (h.moreFlags hmore).executed x st
      (if cycle then .cycle targets else .ofList targets) (some patience)
    obtain ⟨flags, count, hle⟩ := hmore
    exact hexecuted _

/-- **What a command preserves.** -/
theorem step {n : Nat} (h : A.Tells born fresh made s) {c : Command} {a : Answer × List Entry}
    (hrun : (Session.step c).run s = .ok (a, s')) (hborn : born n = ⟨s.store.flagCount⟩)
    (hfresh : s.Founds c s' → fresh n) :
    (A.step n s c a.1).Tells born fresh made s' := by
  cases c with
  | policy c => exact h.policy hrun
  | executor c => exact h.executor hrun
  | flag c => exact h.flag (run_of_answer hrun)
  | statement c => exact h.statement (run_of_answer hrun)
  | node c => exact h.node (run_of_answer hrun)
  | builder c => exact h.builder (run_of_answer hrun) hborn hfresh
  | profile c => exact h.profile (run_of_answer hrun) hborn hfresh
  | handle c => exact h.handle (run_of_answer hrun)

end Ancestry.Tells

section History

variable (commands : Nat → Command)

/-- The flag that the command with a number makes, if it makes one. -/
def Session.nextFlag (n : Nat) : Flag := ⟨(Session.before commands n).store.flagCount⟩

/-- The command with a number is a build that makes the flag of its profile. -/
def Session.FoundsAt (n : Nat) : Prop :=
  (Session.before commands n).Founds (commands n) (Session.before commands (n + 1))

/-- One command: the lineages go on, and no flag is lost. -/
theorem Ancestry.Tells.after {fresh : Nat → Prop} {made n : Nat} {A : Ancestry} {s : Session}
    {c : Command} {born : Nat → Flag} (h : A.Tells born fresh made s)
    (hborn : born n = ⟨s.store.flagCount⟩) (hfresh : s.Founds c (s.after c) → fresh n) :
    (A.after n s c).Tells born fresh s.store.flagCount (s.after c) := by
  -- the flags made so far are counted here, so that the command is seen to lose none
  have hs : A.Tells born fresh s.store.flagCount s := { h with flagCount := Nat.le_refl _ }
  unfold Ancestry.after Session.after at *
  cases hrun : (Session.step c).run s with
  | error e => exact hs
  | ok r =>
    obtain ⟨⟨a, entries⟩, s'⟩ := r
    rw [hrun] at hfresh
    exact hs.step hrun hborn hfresh

/-- **What every sequence of commands preserves.** -/
theorem Ancestry.tells_before (n : Nat) :
    (Ancestry.before commands n).Tells (Session.nextFlag commands) (Session.FoundsAt commands) 0
      (Session.before commands n) := by
  induction n with
  | zero => exact .empty
  | succ n ih => exact { ih.after rfl fun hfounds => hfounds with flagCount := Nat.zero_le _ }

/-- Flags are never lost. -/
theorem Session.flagCount_before_mono {m n : Nat} (h : m ≤ n) :
    (Session.before commands m).store.flagCount ≤ (Session.before commands n).store.flagCount := by
  induction h with
  | refl => exact Nat.le_refl _
  | @step n h ih =>
    have hstep : (Ancestry.before commands (n + 1)).Tells _ _ _ (Session.before commands (n + 1)) :=
      (Ancestry.tells_before commands n).after rfl fun hfounds => hfounds
    exact Nat.le_trans ih hstep.flagCount

end History

end Reattempt
