import Reattempt.Proofs.Abreast
import Reattempt.Proofs.Layers

/-!
# Writes and readings

What is in a shared place is what was written to it last. A policy reads such
places only through its gates: each of them reads its own flag, and nothing else.

* `lastWrite`, `Store.read_applyAll`: the last write counts.
* `Store.flags_applyAll`, `Store.profile_applyAll`: for a flag, for a handle.
* `Store.flags_after_filter`: writes to other places do not.
* `Configured.given`: a policy whose gates are given values, and read no flags.
* `Configured.decide_given`: it answers as the policy does at these values.
* `Configured.decide_congr`: flags that no gate reads do not count.
* `Executor.execute_rewriting`: nor do writes that such flags do not show.
-/

namespace Reattempt

variable {σ τ ρ : Type}

/-- The value that a write gives to a flag. -/
def Effect.value? (flag : Flag) : Effect → Option Bool
  | setFlag f value => if flag = f then some value else none
  | remap _ _ => none

/-- The profile that a write lets a handle point to. -/
def Effect.pointee? (h : Handle) : Effect → Option Profile
  | setFlag _ _ => none
  | remap k p => if h.cell = k.cell then some p else none

/-- What was written last, of what one looks for. -/
def lastWrite {α : Type} (write? : Effect → Option α) (effects : List Effect) : Option α :=
  (effects.filterMap write?).getLast?

/-- Writes that are not looked for may be left out. -/
theorem lastWrite_filter {α : Type} {write? : Effect → Option α} {keep : Effect → Bool}
    (h : ∀ e, (write? e).isSome → keep e = true) (effects : List Effect) :
    lastWrite write? (effects.filter keep) = lastWrite write? effects := by
  unfold lastWrite
  rw [List.filterMap_filter]
  congr 2
  funext e
  cases hw : write? e with
  | none => split <;> rfl
  | some a => rw [if_pos (h e (by rw [hw]; rfl))]

namespace Store

/-- **The last write counts**, where each write either gives a new value or leaves the old one. -/
theorem read_applyAll {α : Type} (read : Store → α) {write? : Effect → Option α}
    (h : ∀ s e, read (apply s e) = (write? e).getD (read s)) (s : Store) (effects : List Effect) :
    read (s.applyAll effects) = (lastWrite write? effects).getD (read s) := by
  induction effects generalizing s with
  | nil => rfl
  | cons e effects ih =>
    have hstep : read (s.applyAll (e :: effects)) =
        (lastWrite write? effects).getD ((write? e).getD (read s)) := by
      rw [← h s e]
      exact ih (s.apply e)
    rw [hstep]
    unfold lastWrite
    cases hw : write? e with
    | none => rw [List.filterMap_cons_none hw]; rfl
    | some a =>
      rw [List.filterMap_cons_some hw, List.getLast?_cons]
      rfl

theorem flags_applyAll (s : Store) (effects : List Effect) (flag : Flag) :
    (s.applyAll effects).flags flag =
      (lastWrite (Effect.value? flag) effects).getD (s.flags flag) := by
  refine read_applyAll (fun s => s.flags flag) (fun s e => ?_) s effects
  cases e with
  | setFlag f value =>
    show (s.setFlag f value).flags flag = _
    rw [flags_setFlag]
    simp only [Effect.value?]
    split <;> rfl
  | remap k p => rfl

theorem profile_applyAll (s : Store) (effects : List Effect) (h : Handle) :
    (s.applyAll effects).profile h =
      (lastWrite (Effect.pointee? h) effects).getD (s.profile h) := by
  refine read_applyAll (fun s => s.profile h) (fun s e => ?_) s effects
  cases e with
  | setFlag f value => rfl
  | remap k p =>
    show (s.remap k p).profile h = _
    rw [profile_remap]
    simp only [Effect.pointee?]
    split <;> rfl

/-- The flag has the value that the attempts wrote last, or else the one before them. -/
theorem flags_after (s : Store) (as : List (Attempt τ ρ)) (flag : Flag) :
    (s.after as).flags flag =
      (lastWrite (Effect.value? flag) (as.flatMap Attempt.effects)).getD (s.flags flag) :=
  s.flags_applyAll _ flag

/-- Attempts may leave out what they write to other places. -/
theorem flags_after_filter {keep : Effect → Bool} {flag : Flag}
    (h : ∀ e, (Effect.value? flag e).isSome → keep e = true) (s : Store)
    (as : List (Attempt τ ρ)) :
    (s.after (as.map (Attempt.rewriting (List.filter keep)))).flags flag =
      (s.after as).flags flag := by
  have heffects : (as.map (Attempt.rewriting (List.filter keep))).flatMap Attempt.effects =
      (as.flatMap Attempt.effects).filter keep := by
    rw [List.flatMap_map, List.filter_flatMap]
    rfl
  rw [flags_after, flags_after, heffects, lastWrite_filter h]

/-- Flags that agree before some attempts agree after them. -/
theorem flags_after_congr {s s' : Store} {flag : Flag} (h : s'.flags flag = s.flags flag)
    (as : List (Attempt τ ρ)) : (s'.after as).flags flag = (s.after as).flags flag := by
  rw [flags_after, flags_after, h]

end Store

/-- A gate that takes a value for that of its flag. -/
def Gate.given (values : Flags) (g : Gate) : Gate :=
  ⟨g.flag, g.resolver.title, fun q _ => g.resolver.isIdempotent q (values g.flag)⟩

/-- A layer whose gate, if it is one, is given a value. -/
def Layer.given (values : Flags) : Layer → Layer
  | logging => logging
  | gate g => gate (g.given values)

/-- A policy whose gates are given values. -/
def Policy.given (values : Flags) (p : Policy) : Policy :=
  ⟨p.layers.map (Layer.given values), p.leaf⟩

/-- A configured policy whose gates are given values. -/
def Configured.given (values : Flags) : Configured → Configured
  | base p => base (p.given values)
  | extended p => extended (p.given values)

theorem Layer.decide_given (values flags : Flags) (l : Layer) :
    (l.given values).decide flags = l.decide values := by
  cases l <;> rfl

/-- **Gates that are given values read no flags.** -/
theorem Policy.decide_given (values flags : Flags) (p : Policy) :
    (p.given values).decide flags = p.decide values := by
  unfold decide given
  rw [List.foldr_map]
  simp only [Layer.decide_given]

/-- Only the values of the gates' own flags are given. -/
theorem Policy.given_congr {values values' : Flags} {p : Policy}
    (h : ∀ g ∈ p.gates, values' g.flag = values g.flag) : p.given values' = p.given values := by
  have hlayers : ∀ l ∈ p.layers, l.given values' = l.given values := by
    intro l hl
    cases l with
    | logging => rfl
    | gate g =>
      have hg := h g (Policy.mem_gates_iff.2 hl)
      simp only [Layer.given, Gate.given, hg]
  unfold given
  rw [List.map_congr_left hlayers]

namespace Configured

theorem decide_given (values flags : Flags) (c : Configured) (q : Query) (level : Consistency)
    (e : AttemptError) (n : Nat) :
    (c.given values).decide flags q level e n = c.decide values q level e n := by
  unfold decide
  cases Failure.ofError? q level n e with
  | none => rfl
  | some f => cases c <;> simp only [given, ask, Policy.decide_given]

/-- **Flags that no gate reads do not count.** -/
theorem decide_congr {flags flags' : Flags} {c : Configured}
    (h : ∀ g ∈ c.policy.gates, flags' g.flag = flags g.flag) (q : Query) (level : Consistency)
    (e : AttemptError) (n : Nat) :
    c.decide flags' q level e n = c.decide flags q level e n := by
  have hgiven : c.given flags' = c.given flags := by
    cases c with
    | base p => exact congrArg base (Policy.given_congr h)
    | extended p => exact congrArg extended (Policy.given_congr h)
  rw [← decide_given flags' flags, hgiven, decide_given]

end Configured

/-- **The terms of a request and the flags that its gates read determine its run**, over the same
plan and the same cluster, which may write anything else. -/
theorem Executor.execute_rewriting {x x' : Executor} {s s' : Statement} {store store' : Store}
    {w : List Effect → List Effect} (plan : Plan τ) (cluster : Cluster σ τ ρ)
    (patience : Option Duration) (state : σ) (hterms : x'.terms s' store' = x.terms s store)
    (hflags : ∀ g ∈ (x.terms s store).policy.policy.gates, ∀ as : List (Attempt τ ρ),
      (store'.after (as.map (Attempt.rewriting w))).flags g.flag = (store.after as).flags g.flag) :
    (x.execute s plan cluster patience store state).Abreast .whole w
      (x'.execute s' plan (cluster.rewriting w) patience store' state) := by
  refine execute_abreast (c := (x.terms s store).policy) plan cluster patience state hterms ?_
  intro i a ha e v ho
  rw [x.verdict_eq s plan cluster patience store state ha ho]
  exact congrArg _ (Configured.decide_congr (fun g hg => hflags g hg _) ..)

end Reattempt
