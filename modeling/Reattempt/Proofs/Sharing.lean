import Reattempt.Proofs.Holders
import Reattempt.Proofs.Inheritance
import Reattempt.Proofs.Succession

/-!
# Which handles share a cell

Handles are copied from name to name, into executors and statements and out of
them again. Two handles share a cell if and only if one command made the handle
that both are copies of. All of them point to the profile of the latest remap
through any of them, whoever did it, and else to the profile the first one was
made for.

* `Session.origin?`: the command that made the handle of which there is a copy at
  a place.
* `Session.remaps`, `Session.latest?`: the remaps so far, by these commands.
* `Session.Traced`: the origins of handles and the latest remaps tell everything.
* `Session.Traced.succ`, `Session.traced`: one command, and all of them.
* `Session.handles_share`: the law of handles.
-/

namespace Reattempt

open Session Reattempt.Action

variable {σ τ ρ : Type}

namespace Session

section History

variable (commands : Nat → Command)

/-- What the command with a number answers, unless it meets an unknown name. -/
def answer? (n : Nat) : Option Answer :=
  match (Session.step (commands n)).run (before commands n) with
  | .ok ((answer, _), _) => some answer
  | .error _ => none

/-- **Where the handle at a place comes from**, before the command with a number: the number of the
command that made it. A copy comes from where its source comes from. -/
def origin? : Nat → Holder → Option Nat
  | 0, _ => none
  | n + 1, place =>
    match answer? commands n, (commands n).put? place with
    | some _, some put =>
      match put with
      | .made _ => some n
      | .copied source => origin? n source
      | .cleared => none
    | _, _ => origin? n place

/-- What a named write lets handles point to, and the origin of these handles. -/
def remap? (n : Nat) : NamedEffect → Option (Nat × Profile)
  | .setFlag _ _ => none
  | .remap handle profile =>
    match origin? commands n (.handle handle), (before commands n).profiles.get? profile with
    | some m, some p => some (m, p)
    | _, _ => none

/-- The remaps before the command with a number, those by nodes among them. -/
def remaps : Nat → List (Nat × Profile)
  | 0 => []
  | n + 1 =>
    remaps n ++
      match answer? commands n with
      | some a => ((before commands n).writesOf (commands n) a).filterMap (remap? commands n)
      | none => []

/-- The profile of a remap through handles of an origin. -/
def remapOf? (m : Nat) (remap : Nat × Profile) : Option Profile :=
  if remap.1 = m then some remap.2 else none

/-- **The latest remap** through handles of an origin, before the command with a number. -/
def latest? (n m : Nat) : Option Profile :=
  ((remaps commands n).filterMap (remapOf? m)).getLast?

/-- **The command with a number makes a handle for a profile.** -/
def Makes (m : Nat) (h : Handle) (p : Profile) : Prop :=
  ∃ name source, commands m = .handle (.make name source h.label) ∧
    (before commands m).profiles.get? source = some p ∧
    h.cell = (before commands m).store.cellCount

/-- **A handle that comes from a command**, before the one with a number, or none that comes from
nowhere. -/
inductive Comes (n : Nat) : Option Handle → Option Nat → Prop where
  | nowhere : Comes n none none
  | made {m : Nat} {h : Handle} {p : Profile} (hlt : m < n) (hm : Makes commands m h p) :
      Comes n (some h) (some m)

/-- **The origins of handles and the latest remaps tell everything** about the handles of a session,
before the command with a number. -/
structure Traced (n : Nat) : Prop where
  held : ∀ place, Comes commands n ((before commands n).held place) (origin? commands n place)
  profile : ∀ m h p, m < n → Makes commands m h p →
    (before commands n).store.HasCell h ∧
      (before commands n).store.profile h = (latest? commands n m).getD p
  earlier : ∀ remap ∈ remaps commands n, remap.1 < n

end History

end Session

theorem Command.makes?_of_put? {c : Command} {place : Holder} {label : Option String}
    (h : c.put? place = some (.made label)) :
    ∃ name source, c = .handle (.make name source label) := by
  have hchanges : ∀ (changes : Changes) (otherwise : Put),
      changes.put otherwise = .made label → otherwise = .made label := by
    intro changes otherwise hput
    unfold Changes.put at hput
    split at hput
    · exact hput
    · cases hput
    · cases hput
  have hputs : c.puts = some (place, .made label) := by
    unfold put? at h
    cases hc : c.puts with
    | none => rw [hc] at h; cases h
    | some put =>
      rw [hc] at h
      obtain ⟨other, put⟩ := put
      obtain ⟨rfl, rfl⟩ : other = place ∧ put = .made label := by simpa using h
      rfl
  cases c with
  | handle c => cases c <;> cases hputs; exact ⟨_, _, rfl⟩
  | executor c => cases c <;> cases hputs
  | statement c =>
    cases c with
    | make name text changes => cases hchanges _ _ (congrArg Prod.snd (Option.some.inj hputs))
    | clone name source changes => cases hchanges _ _ (congrArg Prod.snd (Option.some.inj hputs))
    | view name => cases hputs
  | _ => cases hputs

namespace Session

variable {commands : Nat → Command} {n m m' : Nat} {h h' : Handle} {p p' : Profile}
  {place : Holder}

theorem handles_of_answer? {a : Answer} (ha : answer? commands n = some a) :
    (before commands n).Handles (commands n) a (before commands (n + 1)) := by
  have hsound := (Ancestry.tells_before commands n).toSound
  unfold answer? at ha
  cases hrun : (Session.step (commands n)).run (before commands n) with
  | error e => rw [hrun] at ha; cases ha
  | ok r =>
    obtain ⟨⟨answer, entries⟩, s'⟩ := r
    rw [hrun] at ha
    cases ha
    have hafter : before commands (n + 1) = s' := by
      show (before commands n).after (commands n) = s'
      rw [Session.after, hrun]
    rw [hafter]
    exact hsound.handles_step hrun

theorem before_succ_of_answer?_eq_none (ha : answer? commands n = none) :
    before commands (n + 1) = before commands n := by
  show (before commands n).after (commands n) = _
  unfold answer? at ha
  unfold Session.after
  cases hrun : (Session.step (commands n)).run (before commands n) with
  | error e => rfl
  | ok r => rw [hrun] at ha; cases ha

/-- Cells are never lost. -/
theorem cellCount_before_mono {m n : Nat} (hmn : m ≤ n) :
    (before commands m).store.cellCount ≤ (before commands n).store.cellCount := by
  induction hmn with
  | refl => exact Nat.le_refl _
  | @step n hmn ih =>
    cases ha : answer? commands n with
    | none =>
      rw [before_succ_of_answer?_eq_none ha]
      exact ih
    | some a =>
      rw [(handles_of_answer? ha).cellCount]
      exact Nat.le_trans ih (Nat.le_add_right _ _)

namespace Makes

theorem makes? (hm : Makes commands m h p) :
    ∃ source, (commands m).makes? = some (source, h.label) ∧
      (before commands m).profiles.get? source = some p := by
  obtain ⟨name, source, hc, hp, -⟩ := hm
  exact ⟨source, by rw [hc]; rfl, hp⟩

theorem eq_nextHandle (hm : Makes commands m h p) :
    h = (before commands m).store.nextHandle h.label := by
  obtain ⟨name, source, -, -, hcell⟩ := hm
  rw [Store.nextHandle, ← hcell]

/-- Making a handle for a profile that has a name meets no unknown name. -/
theorem answer? (hm : Makes commands m h p) : ∃ a, answer? commands m = some a := by
  obtain ⟨name, source, hc, hp, -⟩ := hm
  have hrun : ∃ r, (Session.step (commands m)).run (before commands m) = .ok r := by
    rw [hc]
    exact ⟨_, run_bind_eq_ok.2 ⟨_, _, run_look_bind_eq_ok.2 ⟨p, hp, rfl⟩, rfl⟩⟩
  obtain ⟨⟨⟨a, entries⟩, s'⟩, hrun⟩ := hrun
  exact ⟨a, by rw [Session.answer?, hrun]⟩

theorem cellCount (hm : Makes commands m h p) :
    (before commands (m + 1)).store.cellCount = h.cell + 1 := by
  obtain ⟨a, ha⟩ := hm.answer?
  obtain ⟨source, hmakes, -⟩ := hm.makes?
  obtain ⟨-, -, -, -, hcell⟩ := hm
  rw [(handles_of_answer? ha).cellCount, hmakes, hcell]
  rfl

/-- **No two commands make the same cell.** -/
theorem eq_of_cell_eq (hm : Makes commands m h p) (hm' : Makes commands m' h' p')
    (hcell : h.cell = h'.cell) : m = m' := by
  have hcount := hm.cellCount
  have hcount' := hm'.cellCount
  obtain ⟨-, -, -, -, hc⟩ := hm
  obtain ⟨-, -, -, -, hc'⟩ := hm'
  rcases Nat.lt_trichotomy m m' with hlt | heq | hlt
  · have hle : (before commands (m + 1)).store.cellCount ≤ _ := cellCount_before_mono hlt
    omega
  · exact heq
  · have hle : (before commands (m' + 1)).store.cellCount ≤ _ := cellCount_before_mono hlt
    omega

theorem cell_eq_iff (hm : Makes commands m h p) (hm' : Makes commands m' h' p') :
    h.cell = h'.cell ↔ m = m' := by
  refine ⟨hm.eq_of_cell_eq hm', ?_⟩
  rintro rfl
  obtain ⟨-, -, -, -, hc⟩ := hm
  obtain ⟨-, -, -, -, hc'⟩ := hm'
  rw [hc, hc']

end Makes

/-! ### One command -/

theorem latest?_succ_of_none (ha : answer? commands n = none) (m : Nat) :
    latest? commands (n + 1) m = latest? commands n m := by
  simp only [latest?, remaps, ha, List.append_nil]

/-- The writes of a command come after all remaps before. -/
theorem latest?_succ_of_some {a : Answer} (ha : answer? commands n = some a) (m : Nat) :
    latest? commands (n + 1) m =
      (((before commands n).writesOf (commands n) a).filterMap fun effect =>
        (remap? commands n effect).bind (remapOf? m)).getLast?.or (latest? commands n m) := by
  simp only [latest?, remaps, ha, List.filterMap_append, List.getLast?_append,
    List.filterMap_filterMap]

theorem Comes.succ {h? : Option Handle} {m? : Option Nat} (hcomes : Comes commands n h? m?) :
    Comes commands (n + 1) h? m? := by
  cases hcomes with
  | nowhere => exact .nowhere
  | made hlt hm => exact .made (Nat.lt_succ_of_lt hlt) hm

namespace Traced

theorem zero : Traced commands 0 where
  held place := by
    have hnowhere : (before commands 0).held place = none := by cases place <;> rfl
    rw [hnowhere]
    exact .nowhere
  profile m _ _ hlt _ := absurd hlt (Nat.not_lt_zero m)
  earlier _ hr := absurd hr List.not_mem_nil

theorem origin?_of_held (ht : Traced commands n) (hh : (before commands n).held place = some h) :
    ∃ m p, origin? commands n place = some m ∧ m < n ∧ Makes commands m h p := by
  have hcomes := ht.held place
  rw [hh] at hcomes
  generalize origin? commands n place = m? at hcomes
  cases hcomes with
  | made hlt hm => exact ⟨_, _, rfl, hlt, hm⟩

theorem origin?_of_unheld (ht : Traced commands n)
    (hh : (before commands n).held place = none) : origin? commands n place = none := by
  have hcomes := ht.held place
  rw [hh] at hcomes
  generalize origin? commands n place = m? at hcomes
  cases hcomes
  rfl

theorem origin_lt (ht : Traced commands n) (hm : origin? commands n place = some m) : m < n := by
  have hcomes := ht.held place
  rw [hm] at hcomes
  generalize (before commands n).held place = h? at hcomes
  cases hcomes with
  | made hlt => exact hlt

theorem lt_of_remap? (ht : Traced commands n) {effect : NamedEffect} {remap : Nat × Profile}
    (h : remap? commands n effect = some remap) : remap.1 < n := by
  cases effect with
  | setFlag name value => cases h
  | remap handle profile =>
    simp only [remap?] at h
    split at h
    · next horigin _ =>
      cases h
      exact ht.origin_lt horigin
    · cases h

/-- A named write lets the handles of an origin point to a profile if it does so under a name of
theirs. -/
theorem pointee?_effect? (ht : Traced commands n) (hm : Makes commands m h p)
    (effect : NamedEffect) :
    ((before commands n).effect? effect).bind (Effect.pointee? h) =
      (remap? commands n effect).bind (remapOf? m) := by
  cases effect with
  | setFlag name value =>
    simp only [effect?, remap?]
    cases (before commands n).flags.get? name <;> rfl
  | remap handle profile =>
    simp only [effect?, remap?]
    cases hheld : (before commands n).handles.get? handle with
    | none =>
      have hnone : origin? commands n (.handle handle) = none := ht.origin?_of_unheld hheld
      rw [hnone]
      rfl
    | some k =>
      have hplace : (before commands n).held (.handle handle) = some k := hheld
      obtain ⟨m', q, horigin, -, hm'⟩ := ht.origin?_of_held hplace
      rw [horigin]
      cases (before commands n).profiles.get? profile with
      | none => rfl
      | some r => simp [Effect.pointee?, remapOf?, hm.cell_eq_iff hm', eq_comm]

/-- **What a command does to a cell** is told by its remaps. -/
theorem profile_succ (ht : Traced commands n) (hlt : m < n) (hm : Makes commands m h p) :
    (before commands (n + 1)).store.HasCell h ∧
      (before commands (n + 1)).store.profile h = (latest? commands (n + 1) m).getD p := by
  obtain ⟨hcell, hprofile⟩ := ht.profile m h p hlt hm
  cases ha : answer? commands n with
  | none =>
    rw [before_succ_of_answer?_eq_none ha, latest?_succ_of_none ha]
    exact ⟨hcell, hprofile⟩
  | some a =>
    have hstep := handles_of_answer? ha
    refine ⟨?_, ?_⟩
    · rw [Store.HasCell, hstep.cellCount]
      exact Nat.lt_of_lt_of_le hcell (Nat.le_add_right _ _)
    · rw [hstep.profile h hcell, Store.profile_applyAll, hprofile, latest?_succ_of_some ha,
        Option.getD_or, lastWrite, List.filterMap_filterMap]
      simp only [ht.pointee?_effect? hm]

/-- **What a command that makes a handle does to its cell.** -/
theorem profile_made (ht : Traced commands n) (hm : Makes commands n h p) :
    (before commands (n + 1)).store.HasCell h ∧
      (before commands (n + 1)).store.profile h = (latest? commands (n + 1) n).getD p := by
  obtain ⟨a, ha⟩ := hm.answer?
  obtain ⟨source, hmakes, hp⟩ := hm.makes?
  have hmade := (handles_of_answer? ha).made source h.label hmakes
  rw [hp, ← hm.eq_nextHandle] at hmade
  -- nothing was remapped before through handles that are made only now
  have hlatest : latest? commands (n + 1) n = none := by
    have hwrites : (before commands n).writesOf (commands n) a = [] := by
      obtain ⟨name, source, hc, -⟩ := hm
      rw [hc]
      rfl
    have hnone : (remaps commands n).filterMap (remapOf? n) = [] :=
      List.filterMap_eq_nil_iff.2 fun remap hr => if_neg (Nat.ne_of_lt (ht.earlier remap hr))
    rw [latest?_succ_of_some ha, hwrites, latest?, hnone]
    rfl
  refine ⟨?_, ?_⟩
  · rw [Store.HasCell, hm.cellCount]
    exact Nat.lt_succ_self _
  · rw [hlatest]
    exact (Option.some.inj hmade).symm

/-- **What a command does to the handle at a place** is told by its origin. -/
theorem held_succ (ht : Traced commands n) (place : Holder) :
    Comes commands (n + 1) ((before commands (n + 1)).held place)
      (origin? commands (n + 1) place) := by
  have hmono : ∀ place, Comes commands (n + 1) ((before commands n).held place)
      (origin? commands n place) := fun place => (ht.held place).succ
  rw [origin?]
  cases ha : answer? commands n with
  | none =>
    rw [before_succ_of_answer?_eq_none ha]
    exact hmono place
  | some a =>
    rw [(handles_of_answer? ha).held place]
    cases hput : (commands n).put? place with
    | none => exact hmono place
    | some put =>
      cases put with
      | copied source => exact hmono source
      | cleared => exact .nowhere
      | made label =>
        obtain ⟨name, source, hc⟩ := Command.makes?_of_put? hput
        have hmade := (handles_of_answer? ha).made source label (by rw [hc]; rfl)
        exact .made (Nat.lt_succ_self n) ⟨name, source, hc, hmade, rfl⟩

theorem earlier_succ (ht : Traced commands n) : ∀ remap ∈ remaps commands (n + 1),
    remap.1 < n + 1 := by
  intro remap hr
  cases ha : answer? commands n with
  | none =>
    simp only [remaps, ha, List.append_nil] at hr
    exact Nat.lt_succ_of_lt (ht.earlier remap hr)
  | some a =>
    simp only [remaps, ha] at hr
    rcases List.mem_append.1 hr with hr | hr
    · exact Nat.lt_succ_of_lt (ht.earlier remap hr)
    · obtain ⟨effect, -, hremap⟩ := List.mem_filterMap.1 hr
      exact Nat.lt_succ_of_lt (ht.lt_of_remap? hremap)

/-- **What a command preserves.** -/
theorem succ (ht : Traced commands n) : Traced commands (n + 1) where
  held := ht.held_succ
  earlier := ht.earlier_succ
  profile m h p hlt hm := by
    rcases Nat.lt_succ_iff_lt_or_eq.1 hlt with hlt | rfl
    · exact ht.profile_succ hlt hm
    · exact ht.profile_made hm

end Traced

/-- **What every sequence of commands preserves.** -/
theorem traced (commands : Nat → Command) (n : Nat) : Traced commands n := by
  induction n with
  | zero => exact .zero
  | succ n ih => exact ih.succ

/-- **All names stand for what they stood for.** -/
structure SameNames (s s' : Session) : Prop where
  flags : s'.flags = s.flags
  policies : s'.policies = s.policies
  builders : s'.builders = s.builders
  profiles : s'.profiles = s.profiles
  handles : s'.handles = s.handles
  statements : s'.statements = s.statements
  executors : s'.executors = s.executors

theorem SameNames.held {s s' : Session} (hnames : s.SameNames s') : s'.held = s.held := by
  funext place
  cases place with
  | handle name => exact congrArg (·.get? name) hnames.handles
  | executor name => simp only [Session.held, hnames.executors]
  | statement name => simp only [Session.held, hnames.statements]

/-- A remap changes the contents of one cell. -/
theorem after_remap {s : Session} {name source : String} (hh : s.handles.get? name = some h)
    (hp : s.profiles.get? source = some p) :
    s.after (.handle (.remap name source)) = { s with store := s.store.remap h p } := by
  have hrun : (Session.step (.handle (.remap name source))).run s =
      .ok ((.handle ((s.store.remap h p).viewHandle h), []),
        { s with store := s.store.remap h p }) := by
    refine run_bind_eq_ok.2 ⟨_, _, run_look_bind_eq_ok.2 ⟨h, hh, ?_⟩, rfl⟩
    exact run_look_bind_eq_ok.2 ⟨p, hp, rfl⟩
  rw [Session.after, hrun]

/-- An execution may write shared places and nodes only. -/
theorem sameNames_execute {s : Session} (hs : s.Sound) (name : String) (st : StatementSpec)
    (plan : List String) (cycle : Bool) :
    s.SameNames (s.after (.executor (.execute name st plan cycle))) := by
  rw [Session.after]
  cases hrun : (Session.step (.executor (.execute name st plan cycle))).run s with
  | error e => exact ⟨rfl, rfl, rfl, rfl, rfl, rfl, rfl⟩
  | ok r =>
    obtain ⟨a, s'⟩ := r
    obtain ⟨x, -, hrun⟩ := run_look_bind_eq_ok.1 hrun
    obtain ⟨st, s₁, hmore, -, -, hrun⟩ := st.resolves.first hs hrun
    obtain ⟨targets, s₂, htargets, hrun⟩ := run_bind_eq_ok.1 hrun
    obtain rfl := run_targets_eq_ok htargets
    cases hrun
    cases hmore
    exact ⟨rfl, rfl, rfl, rfl, rfl, rfl, rfl⟩

/-- **The law of handles**, after any commands. Each handle at a place comes from a command that
made a handle with its label, and points to the profile of the latest remap through a handle that
comes from there too, or else to the profile of that command. Handles, found at any places at any
times, share a cell if and only if they come from the same command. A remap, by a command or by the
nodes of an execution, leaves all names what they are, so all handles with their labels, all
profiles and all builders; a remap by a command lets the handles of one origin point to the new
profile, and no others. A request whose handle is one of them is on the terms of the profile it
points to. -/
theorem handles_share (commands : Nat → Command) (n : Nat) :
    let s := before commands n
    let s' := before commands (n + 1)
    (∀ place h, s.held place = some h → ∃ m p, origin? commands n place = some m ∧
      Makes commands m h p ∧ s.store.profile h = (latest? commands n m).getD p) ∧
    (∀ k place other h h', s.held place = some h → (before commands k).held other = some h' →
      (h.cell = h'.cell ↔ origin? commands n place = origin? commands k other)) ∧
    (∀ name source h p, commands n = .handle (.remap name source) →
      s.handles.get? name = some h → s.profiles.get? source = some p →
      s.SameNames s' ∧ s'.nodes = s.nodes ∧ s'.store.flags = s.store.flags ∧
      ∀ place k, s.held place = some k → s'.held place = some k ∧
        s'.store.profile k =
          if origin? commands n place = origin? commands n (.handle name) then p
          else s.store.profile k) ∧
    (∀ name st plan cycle, commands n = .executor (.execute name st plan cycle) →
      s.SameNames s') ∧
    ∀ place h m p (x : Executor) (st : Statement) (plan : Plan τ) (cluster : Cluster σ τ ρ)
      (patience : Option Duration) (store : Store) (state : σ),
      s.held place = some h → origin? commands n place = some m → Makes commands m h p →
      st.chosen x.handle = h → store.pointee = s.store.pointee →
      Lawful (st.terms ((latest? commands n m).getD p)) patience plan cluster store state
        (x.execute st plan cluster patience store state).attempts := by
  intro s s'
  have ht := traced commands n
  have hshare : ∀ k place other h h', s.held place = some h →
      (before commands k).held other = some h' →
      (h.cell = h'.cell ↔ origin? commands n place = origin? commands k other) := by
    intro k place other h h' hh hh'
    obtain ⟨m, p, hm, -, hmakes⟩ := ht.origin?_of_held hh
    obtain ⟨m', p', hm', -, hmakes'⟩ := (traced commands k).origin?_of_held hh'
    rw [hmakes.cell_eq_iff hmakes', hm, hm', Option.some.injEq]
  refine ⟨fun place h hh => ?_, hshare, ?_, ?_, ?_⟩
  · obtain ⟨m, p, hm, hlt, hmakes⟩ := ht.origin?_of_held hh
    exact ⟨m, p, hm, hmakes, (ht.profile m h p hlt hmakes).2⟩
  · intro name source h p hc hh hp
    have hafter : s' = { s with store := s.store.remap h p } := by
      rw [← after_remap hh hp, ← hc]
      rfl
    have hnames : s.SameNames s' := by
      rw [hafter]
      exact ⟨rfl, rfl, rfl, rfl, rfl, rfl, rfl⟩
    refine ⟨hnames, by rw [hafter], by rw [hafter]; rfl, fun place k hk => ⟨?_, ?_⟩⟩
    · rw [hnames.held, hk]
    · have hcell := hshare n place (.handle name) k h hk hh
      rw [hafter, Store.profile_remap]
      simp only [hcell]
  · intro name st plan cycle hc
    show s.SameNames (s.after (commands n))
    rw [hc]
    exact sameNames_execute (Ancestry.tells_before commands n).toSound name st plan cycle
  · intro place h m p x st plan cluster patience store state hh hm hmakes hchosen hpointee
    have hprofile : store.profile (st.chosen x.handle) = (latest? commands n m).getD p := by
      rw [hchosen, ← (ht.profile m h p (ht.origin_lt hm) hmakes).2]
      exact congrFun hpointee h.cell
    rw [← hprofile]
    exact x.attempts_lawful st plan cluster patience store state

end Session

/-- Two handles are made for one profile. The first one is copied into an executor and out of it
again, and the copy is remapped to another profile. -/
def Command.copies : Nat → Command
  | 0 => .profile (.make "p")
  | 1 => .builder (.make "b" { Options.unset with consistency := some .one })
  | 2 => .builder (.build "q" "b")
  | 3 => .handle (.make "h" "p" (some "first"))
  | 4 => .handle (.make "g" "p" (some "second"))
  | 5 => .executor (.make "x" "h")
  | 6 => .handle (.ofExecutor "k" "x")
  | 7 => .handle (.remap "k" "q")
  | _ => .handle (.view "h")

namespace Session

open Command (copies)

/-- The remap of the copy reaches the first handle, and not the other one for the same profile. -/
theorem handles_share_copies :
    ∃ h g x q, (before copies 8).held (.handle "h") = some h ∧
      (before copies 8).held (.handle "g") = some g ∧
      (before copies 8).held (.executor "x") = some x ∧
      (before copies 8).profiles.get? "q" = some q ∧
      h.cell = x.cell ∧ h.cell ≠ g.cell ∧
      (before copies 8).store.profile h = q ∧
      (before copies 8).store.profile g = (before copies 7).store.profile g := by
  have hsome : ∀ place ∈ [Holder.handle "h", .handle "g", .executor "x"],
      ((before copies 7).held place).isSome := by decide +kernel
  obtain ⟨h, hh⟩ := Option.isSome_iff_exists.1 (hsome (.handle "h") (by simp))
  obtain ⟨g, hg⟩ := Option.isSome_iff_exists.1 (hsome (.handle "g") (by simp))
  obtain ⟨x, hx⟩ := Option.isSome_iff_exists.1 (hsome (.executor "x") (by simp))
  obtain ⟨q, hq⟩ : ∃ q, (before copies 7).profiles.get? "q" = some q :=
    Option.isSome_iff_exists.1 (by decide +kernel)
  obtain ⟨k, hk⟩ : ∃ k, (before copies 7).handles.get? "k" = some k :=
    Option.isSome_iff_exists.1 (by decide +kernel)
  have horigins : [Holder.handle "h", .handle "g", .executor "x", .handle "k"].map
      (origin? copies 7) = [some 3, some 4, some 3, some 3] := by decide +kernel
  simp only [List.map_cons, List.map_nil, List.cons.injEq, and_true] at horigins
  obtain ⟨hho, hgo, hxo, hko⟩ := horigins
  obtain ⟨-, hshare, hremap, -⟩ := handles_share (σ := Unit) (τ := Unit) (ρ := Unit) copies 7
  obtain ⟨hnames, -, -, hheld⟩ := hremap "k" "q" k q rfl hk hq
  obtain ⟨hh', hhq⟩ := hheld _ h hh
  obtain ⟨hg', hgp⟩ := hheld _ g hg
  rw [hho, hko, if_pos rfl] at hhq
  rw [hgo, hko, if_neg (by decide)] at hgp
  have hcell := hshare 7 _ _ h x hh hx
  have hcell' := hshare 7 _ _ h g hh hg
  rw [hho, hxo] at hcell
  rw [hho, hgo] at hcell'
  have hq' : (before copies 8).profiles.get? "q" = some q := by rw [hnames.profiles, hq]
  exact ⟨h, g, x, q, hh', hg', (hheld _ x hx).1, hq', hcell.2 rfl, mt hcell'.1 (by decide), hhq,
    hgp⟩

end Session

end Reattempt
