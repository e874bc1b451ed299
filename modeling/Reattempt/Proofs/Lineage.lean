import Reattempt.Profile.Builder

/-!
# Lineages

What a builder or a profile comes from: the options that were set along the way,
and the builds in between. A lineage says all there is to say about a builder,
and about a profile, but for the flag that the first build made.

* `Mark`, `Lineage`: the entries, the oldest first.
* `Lineage.written`, `Lineage.firstBuild?`: what counts of them.
* `Lineage.builder`, `Lineage.profile?`: the builder and the profile of a lineage.
* `Lineage.builder_wrote`, `Lineage.profile?_built`, `Lineage.toBuilder_profile?`: setting an
  option, building and deriving extend lineages.
* `Builder.Descends`, `Profile.Descends`: being the builder or the profile of a lineage.
-/

namespace Reattempt

/-- One entry of a lineage. -/
inductive Mark where
  /-- An option was set. -/
  | wrote (setting : Setting)
  /-- A profile was built; builds are told apart by numbers. -/
  | built (number : Nat)

/-- What a builder or a profile comes from, the oldest entry first. -/
abbrev Lineage := List Mark

namespace Setting

/-- The level that is set, if this option is the level. -/
def consistency? : Setting → Option Consistency
  | consistency c => some c
  | _ => none

def timeout? : Setting → Option (Option Duration)
  | timeout t => some t
  | _ => none

def flag? : Setting → Option Flag
  | flag f => some f
  | _ => none

def policy? : Setting → Option Configured
  | policy p => some p
  | _ => none

def maxRetries? : Setting → Option UInt32
  | maxRetries n => some n
  | _ => none

end Setting

/-- Setting an option leaves all others as they are. -/
theorem Builder.set_eq (b : Builder) (x : Setting) :
    b.set x = ⟨x.consistency?.or b.consistency, x.timeout?.or b.timeout, x.flag?.or b.flag,
      x.policy?.or b.policy, x.maxRetries?.or b.maxRetries⟩ := by
  cases x <;> rfl

namespace Mark

/-- The option that was set. -/
def setting? : Mark → Option Setting
  | wrote x => some x
  | built _ => none

/-- The number of the build. -/
def number? : Mark → Option Nat
  | wrote _ => none
  | built n => some n

end Mark

namespace Lineage

variable {α : Type} (read : Setting → Option α) (L : Lineage)

/-- The value of an option that was written last. -/
def written : Option α := (L.filterMap fun m => m.setting?.bind read).getLast?

/-- The first build. -/
def firstBuild? : Option Nat := (L.filterMap Mark.number?).head?

@[simp] theorem written_wrote (x : Setting) :
    written read (L ++ [.wrote x]) = (read x).or (L.written read) := by
  unfold written
  rw [List.filterMap_append, List.getLast?_append]
  cases h : read x <;> simp [Mark.setting?, h]

@[simp] theorem written_built (n : Nat) : written read (L ++ [.built n]) = L.written read := by
  simp [written, Mark.setting?]

@[simp] theorem firstBuild?_wrote (x : Setting) :
    firstBuild? (L ++ [.wrote x]) = L.firstBuild? := by
  simp [firstBuild?, Mark.number?]

@[simp] theorem firstBuild?_built (n : Nat) :
    firstBuild? (L ++ [.built n]) = L.firstBuild?.or (some n) := by
  simp [firstBuild?, Mark.number?]

/-- An option in a builder: the value written last, or a default once a profile was built. -/
def option (default : Nat → Option α) : Option α := (L.written read).or (L.firstBuild?.bind default)

/-- **The builder of a lineage.** A build gives every option a value, except for the policy; `born`
gives the flag that a build makes. -/
def builder (born : Nat → Flag) : Builder where
  consistency := L.option Setting.consistency? fun _ => some Profile.defaultConsistency
  timeout := L.option Setting.timeout? fun _ => some Profile.defaultTimeout
  flag := L.option Setting.flag? fun n => some (born n)
  policy := L.written Setting.policy?
  maxRetries := L.option Setting.maxRetries? fun _ => some Profile.defaultMaxRetries

/-- **The profile of a lineage**, if there is a build in it. Each option has the value written last
or else its default; the default flag is the one of the first build, and the default policy goes by
the flag of this very profile. -/
def profile? (born : Nat → Flag) : Option Profile :=
  L.firstBuild?.map fun n =>
    let flag := (L.written Setting.flag?).getD (born n)
    { consistency := (L.written Setting.consistency?).getD Profile.defaultConsistency
      timeout := (L.written Setting.timeout?).getD Profile.defaultTimeout
      flag := flag
      policy := (L.written Setting.policy?).getD (.standardBehind flag)
      hasDefaultPolicy := (L.written Setting.policy?).isNone
      maxRetries := (L.written Setting.maxRetries?).getD Profile.defaultMaxRetries }

variable {read} {L} {born : Nat → Flag}

@[simp] theorem builder_wrote (x : Setting) :
    builder (L ++ [.wrote x]) born = (L.builder born).set x := by
  simp [builder, option, Builder.set_eq, Option.or_assoc]

/-- An option of a profile that is built: the one in the builder, or else the default. -/
theorem getD_option (default : Nat → Option α) (d : α) (hd : ∀ n, default n = some d) :
    (L.option read default).getD d = (L.written read).getD d := by
  unfold option
  cases L.written read with
  | some a => rfl
  | none => cases L.firstBuild? <;> simp [hd]

/-- **Building extends the lineage**, when the flag of the build is the next one to be made. -/
theorem profile?_built {n : Nat} {s : Store} (hborn : born n = ⟨s.flagCount⟩) :
    profile? (L ++ [.built n]) born = some ((L.builder born).build s).1 := by
  -- a flag that was written, or that of an earlier build, or else the one that this build makes
  have hflag : ((L.builder born).ownFlag s).1 =
      (L.written Setting.flag?).getD (born (L.firstBuild?.getD n)) := by
    unfold Builder.ownFlag builder option
    cases L.written Setting.flag? with
    | some f => rfl
    | none =>
      cases L.firstBuild? with
      | some m => rfl
      | none => exact hborn.symm
  have hbuild : ((L.builder born).build s).1 =
      (L.builder born).profile ((L.builder born).ownFlag s).1 := rfl
  rw [hbuild, hflag, profile?, firstBuild?_built, Option.or_some, Option.map_some]
  simp only [written_built, Builder.profile, builder]
  rw [getD_option _ _ fun _ => rfl, getD_option _ _ fun _ => rfl, getD_option _ _ fun _ => rfl]

/-- **Deriving a builder keeps the lineage.** -/
theorem toBuilder_profile? {p : Profile} (h : L.profile? born = some p) :
    p.toBuilder = L.builder born := by
  obtain ⟨n, hn, rfl⟩ := Option.map_eq_some_iff.1 h
  simp only [Profile.toBuilder, builder, option, hn, Option.bind_some]
  cases L.written Setting.policy? <;> simp

variable (L) in
/-- The build that made the flag, where none was ever set: the first one. -/
def founder? : Option Nat := if (L.written Setting.flag?).isSome then none else L.firstBuild?

theorem founder?_eq_some_iff {n : Nat} :
    L.founder? = some n ↔ L.written Setting.flag? = none ∧ L.firstBuild? = some n := by
  unfold founder?
  cases L.written Setting.flag? <;> simp

/-- Setting an option makes no flag. -/
theorem founder?_of_wrote {x : Setting} {n : Nat} (h : founder? (L ++ [.wrote x]) = some n) :
    L.founder? = some n := by
  obtain ⟨hw, hn⟩ := founder?_eq_some_iff.1 h
  rw [written_wrote, Option.or_eq_none_iff] at hw
  exact founder?_eq_some_iff.2 ⟨hw.2, (firstBuild?_wrote L x).symm.trans hn⟩

/-- A build makes a flag only where none is set and none has been made before. -/
theorem founder?_of_built (born : Nat → Flag) {m n : Nat}
    (h : founder? (L ++ [.built m]) = some n) :
    L.founder? = some n ∨ (n = m ∧ (L.builder born).flag = none) := by
  obtain ⟨hw, hn⟩ := founder?_eq_some_iff.1 h
  rw [written_built] at hw
  rw [firstBuild?_built] at hn
  cases hf : L.firstBuild? with
  | some k =>
    rw [hf, Option.some_or] at hn
    exact .inl (founder?_eq_some_iff.2 ⟨hw, hf.trans hn⟩)
  | none =>
    rw [hf, Option.none_or] at hn
    refine .inr ⟨(Option.some.inj hn).symm, ?_⟩
    simp only [builder, option, hw, hf, Option.bind_none, Option.or_self]

theorem flag_of_founder? {p : Profile} {n : Nat} (h : L.profile? born = some p)
    (hn : L.founder? = some n) : p.flag = born n := by
  obtain ⟨hw, hfirst⟩ := founder?_eq_some_iff.1 hn
  obtain ⟨m, hm, rfl⟩ := Option.map_eq_some_iff.1 h
  rw [hfirst] at hm
  cases hm
  simp only [hw, Option.getD_none]

end Lineage

/-- **A builder comes from a lineage**, in which the flag is from a build that is `fresh`, unless
one was set. -/
structure Builder.Descends (born : Nat → Flag) (fresh : Nat → Prop) (L : Lineage) (b : Builder) :
    Prop where
  eq : b = L.builder born
  fresh : ∀ n, L.founder? = some n → fresh n

/-- **A profile comes from a lineage.** -/
structure Profile.Descends (born : Nat → Flag) (fresh : Nat → Prop) (L : Lineage) (p : Profile) :
    Prop where
  eq : L.profile? born = some p
  fresh : ∀ n, L.founder? = some n → fresh n

section Descends

variable {born : Nat → Flag} {fresh : Nat → Prop} {L : Lineage} {b : Builder} {p : Profile}

theorem Builder.Descends.blank : Builder.blank.Descends born fresh [] := ⟨rfl, nofun⟩

theorem Builder.Descends.set (h : b.Descends born fresh L) (x : Setting) :
    (b.set x).Descends born fresh (L ++ [.wrote x]) where
  eq := by rw [Lineage.builder_wrote, h.eq]
  fresh n hn := h.fresh n (Lineage.founder?_of_wrote hn)

theorem Builder.Descends.setAll (h : b.Descends born fresh L) (settings : List Setting) :
    (b.setAll settings).Descends born fresh (L ++ settings.map .wrote) := by
  induction settings generalizing b L with
  | nil => simpa [Builder.setAll] using h
  | cons x settings ih =>
    have hsplit : L ++ (x :: settings).map .wrote = (L ++ [.wrote x]) ++ settings.map .wrote := by
      simp
    rw [hsplit]
    exact ih (h.set x)

/-- **Building a profile**, with the next flag where the builder has none. -/
theorem Builder.Descends.build (h : b.Descends born fresh L) {n : Nat} {s : Store}
    (hborn : born n = ⟨s.flagCount⟩) (hfresh : b.flag = none → fresh n) :
    (b.build s).1.Descends born fresh (L ++ [.built n]) where
  eq := by rw [Lineage.profile?_built hborn, h.eq]
  fresh m hm := by
    rcases Lineage.founder?_of_built born hm with hm | ⟨rfl, hflag⟩
    · exact h.fresh m hm
    · exact hfresh (h.eq ▸ hflag)

/-- **Deriving a builder** from a profile. -/
theorem Profile.Descends.toBuilder (h : p.Descends born fresh L) :
    p.toBuilder.Descends born fresh L :=
  ⟨Lineage.toBuilder_profile? h.eq, h.fresh⟩

end Descends

end Reattempt
