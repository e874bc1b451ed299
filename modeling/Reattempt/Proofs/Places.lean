import Reattempt.Proofs.Actions

/-!
# Places that have been made

The objects of a session refer to flags and to cells by their numbers. All of
these have been made: their numbers are below those of the next ones. So the
next flag to be made is one that nothing refers to.

* `Policy.flags`, `Profile.flags`, …: the flags that an object refers to.
* `Session.Sound`: all flags and cells that a session refers to have been made.
* `Action.Resolves`: the object that a description stands for refers to such flags too.
* `Session.Refers`, `Session.Sound.not_refers`: nothing refers to the next flag.
-/

namespace Reattempt

open Session Reattempt.Action

/-- The flags of the gates among the layers. -/
def Policy.flags (p : Policy) : List Flag := p.gates.map Gate.flag

def Configured.flags (c : Configured) : List Flag := c.policy.flags

def Setting.flags : Setting → List Flag
  | flag f => [f]
  | policy p => p.flags
  | _ => []

def Builder.flags (b : Builder) : List Flag :=
  b.flag.toList ++ b.policy.toList.flatMap Configured.flags

def Profile.flags (p : Profile) : List Flag := p.flag :: p.policy.flags

def Statement.flags (st : Statement) : List Flag := st.policy.toList.flatMap Configured.flags

theorem Policy.mem_flags_of_child? {p inner : Policy} {f : Flag} (h : p.child? = some inner)
    (hf : f ∈ inner.flags) : f ∈ p.flags := by
  obtain ⟨layers, leaf⟩ := p
  cases layers with
  | nil => cases h
  | cons l layers =>
    cases h
    obtain ⟨g, hg, rfl⟩ := List.mem_map.1 hf
    obtain ⟨l', hl', hg⟩ := List.mem_filterMap.1 hg
    exact List.mem_map_of_mem (List.mem_filterMap.2 ⟨l', List.mem_cons_of_mem _ hl', hg⟩)

theorem Profile.mem_flags_toBuilder {p : Profile} {f : Flag} (h : f ∈ p.toBuilder.flags) :
    f ∈ p.flags := by
  cases hd : p.hasDefaultPolicy <;> simp_all [toBuilder, Builder.flags, flags]

theorem Builder.mem_flags {b : Builder} {f : Flag} :
    f ∈ b.flags ↔ b.flag = some f ∨ ∃ p, b.policy = some p ∧ f ∈ p.flags := by
  simp [flags]

theorem Builder.mem_flags_set {b : Builder} {x : Setting} {f : Flag} (h : f ∈ (b.set x).flags) :
    f ∈ b.flags ∨ f ∈ x.flags := by
  cases x with
  | flag g =>
    rcases mem_flags.1 h with hg | hp
    · exact .inr (List.mem_singleton.2 (Option.some.inj hg).symm)
    · exact .inl (mem_flags.2 (.inr hp))
  | policy p =>
    rcases mem_flags.1 h with hg | ⟨q, hq, hf⟩
    · exact .inl (mem_flags.2 (.inl hg))
    · cases hq
      exact .inr hf
  | consistency | timeout | maxRetries => exact .inl h

theorem Builder.mem_flags_setAll {b : Builder} {settings : List Setting} {f : Flag}
    (h : f ∈ (b.setAll settings).flags) : f ∈ b.flags ∨ ∃ x ∈ settings, f ∈ x.flags := by
  induction settings generalizing b with
  | nil => exact .inl h
  | cons x settings ih =>
    rcases ih h with hb | ⟨y, hy, hf⟩
    · rcases mem_flags_set hb with hb | hx
      · exact .inl hb
      · exact .inr ⟨x, List.mem_cons_self, hx⟩
    · exact .inr ⟨y, List.mem_cons_of_mem _ hy, hf⟩

/-- Flags have been made. -/
def Store.Knows (s : Store) (flags : List Flag) : Prop := ∀ f ∈ flags, f.id < s.flagCount

theorem Store.Knows.mono {s s' : Store} {flags : List Flag} (h : s.Knows flags)
    (hle : s.flagCount ≤ s'.flagCount) : s'.Knows flags :=
  fun f hf => Nat.lt_of_lt_of_le (h f hf) hle

/-- The cell of a handle has been made. -/
def Store.HasCell (s : Store) (h : Handle) : Prop := h.cell < s.cellCount

/-- The flags and the cell of a statement have been made. -/
structure Statement.Sound (s : Store) (st : Statement) : Prop where
  flags : s.Knows st.flags
  handle : ∀ h, st.handle = some h → s.HasCell h

theorem Statement.Sound.ofText (s : Store) (text : String) : (Statement.ofText text).Sound s where
  flags f hf := by cases hf
  handle h hh := by cases hh

/-- **All flags and cells that a session refers to have been made.** -/
structure Session.Sound (s : Session) : Prop where
  flags : s.flags.All fun _ f => s.store.Knows [f]
  policies : s.policies.All fun _ c => s.store.Knows c.flags
  builders : s.builders.All fun _ b => s.store.Knows b.flags
  profiles : s.profiles.All fun _ p => s.store.Knows p.flags
  handles : s.handles.All fun _ h => s.store.HasCell h
  statements : s.statements.All fun _ st => st.Sound s.store
  executors : s.executors.All fun _ x => s.store.HasCell x.handle
  cells : ∀ c < s.store.cellCount, s.store.Knows (s.store.pointee c).flags

namespace Session.Sound

variable {s s' : Session}

theorem empty : Session.empty.Sound :=
  ⟨.empty, .empty, .empty, .empty, .empty, .empty, .empty, nofun⟩

/-- Making and writing flags keeps a session sound. -/
theorem moreFlags (h : s.Sound) (hmore : s.MoreFlags s') : s'.Sound := by
  obtain ⟨flags, count, hle⟩ := hmore
  exact
    { flags := h.flags.mono fun _ _ hf => hf.mono hle
      policies := h.policies.mono fun _ _ hc => hc.mono hle
      builders := h.builders.mono fun _ _ hb => hb.mono hle
      profiles := h.profiles.mono fun _ _ hp => hp.mono hle
      handles := h.handles
      statements := h.statements.mono fun _ _ hst => ⟨hst.flags.mono hle, hst.handle⟩
      executors := h.executors
      cells := fun c hc => (h.cells c hc).mono hle }

end Session.Sound

namespace Action

variable {α β : Type}

/-- **An action that describes an object**: it makes flags at most, and its answer is good. -/
def Resolves (good : Store → α → Prop) (x : Action α) : Prop :=
  ∀ ⦃s s' : Session⦄ ⦃a : α⦄, s.Sound → x.run s = .ok (a, s') → s.MoreFlags s' ∧ good s'.store a

/-- The first part of an action that describes an object. -/
theorem Resolves.first {good : Store → α → Prop} {x : Action α} {f : α → Action β}
    (hx : x.Resolves good) {s s' : Session} {b : β} (hs : s.Sound)
    (hrun : (x >>= f).run s = .ok (b, s')) :
    ∃ a s₁, s.MoreFlags s₁ ∧ s₁.Sound ∧ good s₁.store a ∧ (f a).run s₁ = .ok (b, s') := by
  obtain ⟨a, s₁, ha, hb⟩ := run_bind_eq_ok.1 hrun
  obtain ⟨hmore, hgood⟩ := hx hs ha
  exact ⟨a, s₁, hmore, hs.moreFlags hmore, hgood, hb⟩

/-- A name that is looked up: what a sound session has under it. -/
theorem Resolves.look {kind name : String} {registry : Session → Registry α}
    {good : Store → α → Prop}
    (h : ∀ {s : Session}, s.Sound → (registry s).All fun _ => good s.store) :
    (look kind registry name).Resolves good := by
  intro s s' a hs hrun
  obtain ⟨ha, rfl⟩ := run_look_eq_ok.1 hrun
  exact ⟨.refl s, h hs name a ha⟩

theorem Resolves.mapM {good : Store → β → Prop} {f : α → Action β} (hf : ∀ a, (f a).Resolves good)
    (o : Option α) : (o.mapM f).Resolves fun s b? => ∀ b, b? = some b → good s b := by
  intro s s' b? hs hrun
  cases o with
  | none =>
    cases hrun
    exact ⟨.refl s, nofun⟩
  | some a =>
    obtain ⟨b, hb, rfl⟩ := run_map_eq_ok.1 hrun
    obtain ⟨hmore, hgood⟩ := hf a hs hb
    exact ⟨hmore, fun _ h => Option.some.inj h ▸ hgood⟩

end Action

theorem FlagSpec.resolves (spec : FlagSpec) : spec.resolve.Resolves fun s f => s.Knows [f] := by
  cases spec with
  | fresh value =>
    intro s s' f hs hrun
    rw [resolve, run_shared] at hrun
    cases hrun
    refine ⟨⟨_, _, Nat.le_succ _⟩, ?_⟩
    intro f hf
    rw [List.mem_singleton.1 hf]
    exact Nat.lt_succ_self _
  | named name => exact .look fun hs => hs.flags

theorem PolicySpec.resolves (spec : PolicySpec) :
    spec.resolve.Resolves fun s p => s.Knows p.flags := by
  induction spec with
  | leaf l =>
    intro s s' p hs hrun
    cases hrun
    exact ⟨.refl s, nofun⟩
  | logging child ih =>
    intro s s' p hs hrun
    obtain ⟨inner, s₁, hmore, -, hinner, hp⟩ := ih.first hs hrun
    cases hp
    exact ⟨hmore, hinner⟩
  | gated child flag resolver ih =>
    intro s s' p hs hrun
    obtain ⟨inner, s₁, hmore₁, hs₁, hinner, hrun⟩ := ih.first hs hrun
    obtain ⟨f, s₂, hmore₂, -, hf, hp⟩ := flag.resolves.first hs₁ hrun
    cases hp
    -- the flags of the child were made first, and those made for the gate come on top
    refine ⟨hmore₁.trans hmore₂, fun g hg => ?_⟩
    rcases List.mem_cons.1 hg with rfl | hg
    · exact hf _ (List.mem_singleton.2 rfl)
    · exact hinner.mono hmore₂.count_le g hg
  | childOf policy ih =>
    intro s s' p hs hrun
    obtain ⟨outer, s₁, hmore, -, houter, hp⟩ := ih.first hs hrun
    cases hp
    refine ⟨hmore, fun f hf => ?_⟩
    cases hchild : outer.child? with
    | none => exact houter f (by rwa [hchild] at hf)
    | some inner => exact houter f (Policy.mem_flags_of_child? hchild (by rwa [hchild] at hf))

theorem ConfiguredSpec.resolves (spec : ConfiguredSpec) :
    spec.resolve.Resolves fun s c => s.Knows c.flags := by
  intro s s' c hs hrun
  cases spec with
  | base policy | extended policy =>
    obtain ⟨p, s₁, hmore, -, hp, hc⟩ := policy.resolves.first hs hrun
    cases hc
    exact ⟨hmore, hp⟩
  | named name =>
    obtain ⟨hc, rfl⟩ := run_look_eq_ok.1 hrun
    exact ⟨.refl s, hs.policies name c hc⟩
  | ofProfile name =>
    obtain ⟨p, hp, hc⟩ := run_look_bind_eq_ok.1 hrun
    cases hc
    exact ⟨.refl s, fun f hf => hs.profiles name p hp f (List.mem_cons_of_mem _ hf)⟩
  | ofHandle name =>
    obtain ⟨h, hh, hc⟩ := run_look_bind_eq_ok.1 hrun
    cases hc
    have hcell := hs.cells h.cell (hs.handles name h hh)
    exact ⟨.refl s, fun f hf => hcell f (List.mem_cons_of_mem _ hf)⟩
  | ofStatement name =>
    obtain ⟨st, hst, hc⟩ := run_look_bind_eq_ok.1 hrun
    have hflags := (hs.statements name st hst).flags
    cases hp : st.policy with
    | none =>
      rw [hp] at hc
      cases hc
    | some p =>
      rw [hp] at hc
      cases hc
      exact ⟨.refl s, fun f hf => hflags f (by simpa [Statement.flags, hp] using hf)⟩

/-- The settings that options stand for. -/
theorem Options.resolves (o : Options) :
    o.resolve.Resolves fun s settings => ∀ x ∈ settings, s.Knows x.flags := by
  intro s s' settings hs hrun
  obtain ⟨flag, s₁, hmore₁, hs₁, hflag, hrun⟩ :=
    (Resolves.mapM FlagSpec.resolves o.flag).first hs hrun
  obtain ⟨policy, s₂, hmore₂, hs₂, hpolicy, hrun⟩ :=
    (Resolves.mapM PolicySpec.resolves o.policy).first hs₁ hrun
  obtain ⟨base, s₃, hmore₃, -, hbase, hrun⟩ :=
    (Resolves.mapM PolicySpec.resolves o.basePolicy).first hs₂ hrun
  cases hrun
  refine ⟨hmore₁.trans (hmore₂.trans hmore₃), fun x hx => ?_⟩
  simp only [List.mem_append, Option.mem_toList, Option.map_eq_some_iff] at hx
  -- only a flag or a policy that is set may refer to flags
  rcases hx with ((((⟨c, -, rfl⟩ | ⟨t, -, rfl⟩) | ⟨f, hf, rfl⟩) | ⟨p, hp, rfl⟩) | ⟨p, hp, rfl⟩) |
    ⟨n, -, rfl⟩
  · exact nofun
  · exact nofun
  · exact (hflag f hf).mono (hmore₂.trans hmore₃).count_le
  · exact (hpolicy p hp).mono hmore₃.count_le
  · exact hbase p hp
  · exact nofun

/-- A statement with changes made to it. -/
theorem Changes.resolves (c : Changes) {st : Statement} {s s' : Session} {a : Statement}
    (hs : s.Sound) (hst : st.Sound s.store) (hrun : (c.make st).run s = .ok (a, s')) :
    s.MoreFlags s' ∧ a.Sound s'.store := by
  obtain ⟨policy, s₁, hmore, hs₁, hpolicy, hrun⟩ :=
    (Resolves.mapM (Resolves.mapM ConfiguredSpec.resolves) c.policy).first hs hrun
  have hlook : ∀ name, (Session.handle name).Resolves Store.HasCell := fun _ =>
    .look fun hs => hs.handles
  obtain ⟨handle, s₂, hmore₂, -, hhandle, hrun⟩ :=
    (Resolves.mapM (Resolves.mapM hlook) c.handle).first hs₁ hrun
  cases hrun
  refine ⟨hmore.trans hmore₂, ⟨fun f hf => ?_, fun h hh => ?_⟩⟩
  · cases policy with
    | none => exact hst.flags.mono (hmore.trans hmore₂).count_le f hf
    | some p? =>
      obtain ⟨p, hp, hf⟩ := List.mem_flatMap.1 hf
      exact (hpolicy p? rfl p (Option.mem_toList.1 hp)).mono hmore₂.count_le f hf
  · cases handle with
    | none =>
      have hcell : h.cell < s.store.cellCount := hst.handle h hh
      exact Nat.lt_of_lt_of_eq hcell (hmore.trans hmore₂).cellCount_eq.symm
    | some h? => exact hhandle h? rfl h hh

theorem StatementSpec.resolves (spec : StatementSpec) :
    spec.resolve.Resolves fun s st => st.Sound s := by
  intro s s' st hs hrun
  cases spec with
  | named name =>
    obtain ⟨hst, rfl⟩ := run_look_eq_ok.1 hrun
    exact ⟨.refl s, hs.statements name st hst⟩
  | fresh text changes => exact changes.resolves hs (.ofText _ text) hrun

theorem Builder.build_of_flag {b : Builder} {f : Flag} (h : b.flag = some f) (s : Store) :
    b.build s = (b.profile f, s) := by
  simp only [build, ownFlag, h]

theorem Builder.build_of_none {b : Builder} (h : b.flag = none) (s : Store) :
    b.build s = (b.profile (s.newFlag false).1, (s.newFlag false).2) := by
  simp only [build, ownFlag, h]

theorem Builder.mem_flags_profile {b : Builder} {flag f : Flag} (h : f ∈ (b.profile flag).flags) :
    f = flag ∨ f ∈ b.flags := by
  rcases List.mem_cons.1 h with rfl | hf
  · exact .inl rfl
  · cases hp : b.policy with
    | none =>
      simp only [profile, hp, Option.getD_none] at hf
      exact .inl (List.mem_singleton.1 hf)
    | some p =>
      simp only [profile, hp, Option.getD_some] at hf
      exact .inr (mem_flags.2 (.inr ⟨p, hp, hf⟩))

/-- **Building makes a flag at most**, and gives a profile all of whose flags have been made. -/
theorem Builder.resolves_build {b : Builder} {s : Session} (h : s.store.Knows b.flags) :
    s.MoreFlags { s with store := (b.build s.store).2 } ∧
      (b.build s.store).2.Knows (b.build s.store).1.flags := by
  cases hflag : b.flag with
  | some f =>
    rw [build_of_flag hflag]
    refine ⟨.refl s, fun g hg => ?_⟩
    rcases mem_flags_profile hg with rfl | hg
    · exact h g (mem_flags.2 (.inl hflag))
    · exact h g hg
  | none =>
    rw [build_of_none hflag]
    have hle : s.store.flagCount ≤ (s.store.newFlag false).2.flagCount := Nat.le_succ _
    refine ⟨⟨_, _, hle⟩, fun g hg => ?_⟩
    rcases mem_flags_profile hg with rfl | hg
    · exact Nat.lt_succ_self _
    · exact h.mono hle g hg

/-- **An object of the session refers to a flag**: a flag, policy, builder, profile or statement
that has a name, or a profile that a handle may point to. -/
inductive Session.Refers (s : Session) (f : Flag) : Prop where
  | flag {name : String} (h : s.flags.get? name = some f)
  | policy {name : String} {c : Configured} (h : s.policies.get? name = some c) (hf : f ∈ c.flags)
  | builder {name : String} {b : Builder} (h : s.builders.get? name = some b) (hf : f ∈ b.flags)
  | profile {name : String} {p : Profile} (h : s.profiles.get? name = some p) (hf : f ∈ p.flags)
  | statement {name : String} {st : Statement} (h : s.statements.get? name = some st)
      (hf : f ∈ st.flags)
  | cell {c : Nat} (hc : c < s.store.cellCount) (hf : f ∈ (s.store.pointee c).flags)

/-- **Nothing refers to the next flag.** -/
theorem Session.Sound.not_refers {s : Session} (h : s.Sound) : ¬ s.Refers ⟨s.store.flagCount⟩ := by
  intro hr
  have hlt : s.store.flagCount < s.store.flagCount := by
    cases hr with
    | flag hf => exact h.flags _ _ hf _ (List.mem_singleton.2 rfl)
    | policy hc hf => exact h.policies _ _ hc _ hf
    | builder hb hf => exact h.builders _ _ hb _ hf
    | profile hp hf => exact h.profiles _ _ hp _ hf
    | statement hst hf => exact (h.statements _ _ hst).flags _ hf
    | cell hc hf => exact h.cells _ hc _ hf
  exact Nat.lt_irrefl _ hlt

end Reattempt
