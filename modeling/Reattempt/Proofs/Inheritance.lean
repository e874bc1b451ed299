import Reattempt.Proofs.Descent

/-!
# What profiles inherit

The profiles of a session, by their lineages. Each option has the value that was
written last, or else its default. The policy, where none was written, is the
default one over the profile's own flag. The flag, where none was written, was
made by the first build in the lineage, for nobody else.

* `Session.Bears`: a session has a profile of a lineage.
* `Inherited`: what such a profile is like.
* `Session.Bears.inherited`, `Session.Bears.flag_eq_iff`: what its options are, and
  who shares its flag.
* `Session.profiles_inherit`: the law of lineages.
-/

namespace Reattempt

/-- **Before the command with a number there is a profile of a lineage**: it has a name, or handles
may point to it. -/
inductive Session.Bears (commands : Nat → Command) (n : Nat) : Lineage → Profile → Prop where
  | named {name : String} {p : Profile}
      (h : (Session.before commands n).profiles.get? name = some p) :
      Bears commands n ((Ancestry.before commands n).profiles name) p
  | pointed {cell : Nat} (h : cell < (Session.before commands n).store.cellCount) :
      Bears commands n ((Ancestry.before commands n).cells cell)
        ((Session.before commands n).store.pointee cell)

/-- **What a profile has from its lineage**, where `n` commands were done before. -/
structure Inherited (commands : Nat → Command) (n : Nat) (L : Lineage) (p : Profile) : Prop where
  consistency : p.consistency = (L.written Setting.consistency?).getD .localQuorum
  timeout : p.timeout = (L.written Setting.timeout?).getD (some (.ofSeconds 30 0))
  maxRetries : p.maxRetries = (L.written Setting.maxRetries?).getD 10
  policy : p.policy = (L.written Setting.policy?).getD
    (.extended ⟨[.gate ⟨p.flag, .declared⟩], .standard⟩)
  /-- A flag that was written. -/
  flag : ∀ f, L.written Setting.flag? = some f → p.flag = f
  /-- A flag that never was: it was made, as a false one that nothing referred to before, by the
  first build, for the profile that was built. -/
  ownFlag : L.written Setting.flag? = none → ∃ m < n, L.firstBuild? = some m ∧
    (commands m).isBuild = true ∧
    ¬ (Session.before commands m).Refers p.flag ∧
    (Session.before commands (m + 1)).store.flags p.flag = false ∧
    ∃ name q, (Session.before commands (m + 1)).profiles.get? name = some q ∧ q.flag = p.flag

namespace Session

variable {commands : Nat → Command} {n n' : Nat} {L M : Lineage} {p q : Profile}

theorem FoundsAt.flagCount (h : FoundsAt commands n) :
    (before commands (n + 1)).store.flagCount = (before commands n).store.flagCount + 1 := by
  rw [h.store]
  rfl

/-- **No two builds make the same flag.** -/
theorem FoundsAt.eq_of_nextFlag_eq (h : FoundsAt commands n) (h' : FoundsAt commands n')
    (heq : nextFlag commands n = nextFlag commands n') : n = n' := by
  have hcount : (before commands n).store.flagCount = (before commands n').store.flagCount :=
    congrArg Flag.id heq
  have hsucc := h.flagCount
  have hsucc' := h'.flagCount
  rcases Nat.lt_trichotomy n n' with hlt | heq | hlt
  · have hle : (before commands (n + 1)).store.flagCount ≤ _ := flagCount_before_mono commands hlt
    omega
  · exact heq
  · have hle : (before commands (n' + 1)).store.flagCount ≤ _ := flagCount_before_mono commands hlt
    omega

theorem Bears.knows (h : Bears commands n L p) : (before commands n).store.Knows p.flags := by
  have htells := Ancestry.tells_before commands n
  cases h with
  | named h => exact htells.profiles _ _ h
  | pointed h => exact htells.cells _ h

theorem Bears.descends (h : Bears commands n L p) :
    p.Descends (nextFlag commands) (FoundsAt commands) L := by
  have htells := Ancestry.tells_before commands n
  cases h with
  | named h => exact htells.ofProfiles _ _ h
  | pointed h => exact htells.ofCells _ h

/-- The build that made the flag of a profile, where none was written. -/
theorem Bears.founder (h : Bears commands n L p) (hw : L.written Setting.flag? = none) :
    ∃ m, L.firstBuild? = some m ∧ p.flag = nextFlag commands m ∧ FoundsAt commands m := by
  have hdescends := h.descends
  obtain ⟨m, hm, -⟩ := Option.map_eq_some_iff.1 hdescends.eq
  have hfounder : L.founder? = some m := Lineage.founder?_eq_some_iff.2 ⟨hw, hm⟩
  exact ⟨m, hm, Lineage.flag_of_founder? hdescends.eq hfounder, hdescends.fresh m hfounder⟩

theorem Bears.flag_of_written (h : Bears commands n L p) {f : Flag}
    (hw : L.written Setting.flag? = some f) : p.flag = f := by
  obtain ⟨m, -, rfl⟩ := Option.map_eq_some_iff.1 h.descends.eq
  simp only [hw, Option.getD_some]

/-- **The first build makes the flag**, for its profile and for nobody else. -/
theorem Bears.ownFlag (h : Bears commands n L p) (hw : L.written Setting.flag? = none) :
    ∃ m < n, L.firstBuild? = some m ∧ (commands m).isBuild = true ∧
      ¬ (before commands m).Refers p.flag ∧
      (before commands (m + 1)).store.flags p.flag = false ∧
      ∃ name q, (before commands (m + 1)).profiles.get? name = some q ∧ q.flag = p.flag := by
  obtain ⟨m, hm, hflag, hfounds⟩ := h.founder hw
  obtain ⟨name, q, hq, hqflag⟩ := hfounds.profile
  have hknown : p.flag.id < (before commands n).store.flagCount := h.knows _ List.mem_cons_self
  rw [hflag] at hknown
  -- the flag was not there before its build, so the build came before
  have hlt : m < n := by
    refine Nat.lt_of_not_le fun hle => ?_
    have hmono := flagCount_before_mono commands hle
    exact absurd hknown (Nat.not_lt.2 hmono)
  refine ⟨m, hlt, hm, hfounds.isBuild, ?_, ?_, name, q, hq, hqflag.trans hflag.symm⟩
  · rw [hflag]
    exact (Ancestry.tells_before commands m).not_refers
  · rw [hfounds.store, hflag]
    exact if_pos rfl

theorem Bears.inherited (h : Bears commands n L p) : Inherited commands n L p := by
  obtain ⟨m, -, hp⟩ := Option.map_eq_some_iff.1 h.descends.eq
  refine ⟨?_, ?_, ?_, ?_, fun f hf => h.flag_of_written hf, h.ownFlag⟩ <;> rw [← hp] <;> rfl

/-- **Who has the flag that a first build made**: those with the same first build, as long as no
other flag is written, and those for which this very flag is written. -/
theorem Bears.flag_eq_iff (h : Bears commands n L p) (h' : Bears commands n' M q)
    (hw : L.written Setting.flag? = none) :
    p.flag = q.flag ↔ M.written Setting.flag? = some p.flag ∨
      (M.written Setting.flag? = none ∧ M.firstBuild? = L.firstBuild?) := by
  obtain ⟨m, hm, hflag, hfounds⟩ := h.founder hw
  cases hw' : M.written Setting.flag? with
  | some f =>
    rw [h'.flag_of_written hw']
    simp [eq_comm]
  | none =>
    obtain ⟨m', hm', hflag', hfounds'⟩ := h'.founder hw'
    simp only [reduceCtorEq, false_or, true_and]
    rw [hm, hm', hflag, hflag']
    constructor
    · intro heq
      rw [hfounds.eq_of_nextFlag_eq hfounds' heq]
    · intro heq
      rw [Option.some.inj heq]

/-- **The law of lineages**, after any commands. A profile has each option as it was written last in
its lineage, and else the default; its default policy goes by its own flag. A flag that was never
written in the lineage was made by the first build, and is inherited: other profiles, at any time,
have it only by the same first build, or where it is written for them. -/
theorem profiles_inherit (commands : Nat → Command) (n : Nat) :
    (∀ L p, Bears commands n L p → Inherited commands n L p) ∧
    ∀ n' L p M q, Bears commands n L p → Bears commands n' M q →
      L.written Setting.flag? = none →
      (p.flag = q.flag ↔ M.written Setting.flag? = some p.flag ∨
        (M.written Setting.flag? = none ∧ M.firstBuild? = L.firstBuild?)) :=
  ⟨fun _ _ h => h.inherited, fun _ _ _ _ _ h h' hw => h.flag_eq_iff h' hw⟩

end Session

/-- No option is set. -/
def Options.unset : Options := ⟨none, none, none, none, none, none⟩

/-- A builder is built, and its clone; then a profile is derived from the first one, at another
level. -/
def Command.generations : Nat → Command
  | 0 => .builder (.make "b" .unset)
  | 1 => .builder (.build "p" "b")
  | 2 => .builder (.clone "c" "b" .unset)
  | 3 => .builder (.build "q" "c")
  | 4 => .builder (.ofProfile "d" "p" { Options.unset with consistency := some .one })
  | 5 => .builder (.build "r" "d")
  | _ => .profile (.view "r")

namespace Session

open Command (generations)

/-- The build of the clone has a flag of its own; the derived profile has that of the first one. -/
theorem profiles_inherit_generations :
    ∃ p q r, (before generations 6).profiles.get? "p" = some p ∧
      (before generations 6).profiles.get? "q" = some q ∧
      (before generations 6).profiles.get? "r" = some r ∧
      p.flag ≠ q.flag ∧ p.flag = r.flag ∧ r.consistency = .one := by
  have hsome : ∀ name ∈ ["p", "q", "r"],
      ((before generations 6).profiles.get? name).isSome := by decide +kernel
  obtain ⟨p, hp⟩ := Option.isSome_iff_exists.1 (hsome "p" (by simp))
  obtain ⟨q, hq⟩ := Option.isSome_iff_exists.1 (hsome "q" (by simp))
  obtain ⟨r, hr⟩ := Option.isSome_iff_exists.1 (hsome "r" (by simp))
  let L := (Ancestry.before generations 6).profiles
  have hflags : ∀ name ∈ ["p", "q", "r"], (L name).written Setting.flag? = none := by
    decide +kernel
  have hbuilds : ["p", "q", "r"].map (fun name => (L name).firstBuild?) =
      [some 1, some 3, some 1] := by decide +kernel
  have hlevel : (L "r").written Setting.consistency? = some .one := by decide +kernel
  simp only [List.map_cons, List.map_nil, List.cons.injEq, and_true] at hbuilds
  obtain ⟨hpn, hqn, hrn⟩ := hbuilds
  obtain ⟨hlaw, hshare⟩ := profiles_inherit generations 6
  have hpq := hshare 6 (L "p") p (L "q") q (.named hp) (.named hq) (hflags "p" (by simp))
  have hpr := hshare 6 (L "p") p (L "r") r (.named hp) (.named hr) (hflags "p" (by simp))
  refine ⟨p, q, r, hp, hq, hr, fun heq => ?_, ?_, ?_⟩
  · rcases hpq.1 heq with hw | ⟨-, hbuild⟩
    · rw [hflags "q" (by simp)] at hw
      cases hw
    · rw [hpn, hqn] at hbuild
      cases hbuild
  · exact hpr.2 (.inr ⟨hflags "r" (by simp), hrn.trans hpn.symm⟩)
  · rw [(hlaw (L "r") r (.named hr)).consistency, hlevel]
    rfl

end Session

end Reattempt
