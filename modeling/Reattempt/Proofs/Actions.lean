import Reattempt.Session.Step

/-!
# Actions step by step

How an action comes to its answer: what must have been under the names that it
looked up, and what its parts did. An action that only describes an object may
make flags, and changes nothing else.

* `Action.run_bind_eq_ok`, `Action.run_look_eq_ok`: the answer of a compound action.
* `Session.MoreFlags`: a session with flags made or written, and nothing else changed.
* `Registry.All`: what holds of every value in a registry.
-/

namespace Reattempt

open Session

namespace Action

variable {α β : Type} {s s' : Session}

@[simp] theorem run_pure (a : α) : (pure a : Action α).run s = .ok (a, s) := rfl

@[simp] theorem run_throw (e : UnknownName) : (throw e : Action α).run s = .error e := rfl

@[simp] theorem run_get_bind (f : Session → Action β) : (get >>= f).run s = (f s).run s := rfl

@[simp] theorem run_shared (g : Store → α × Store) :
    (shared g).run s = .ok ((g s.store).1, { s with store := (g s.store).2 }) := rfl

/-- An action in two parts has an answer when both have. -/
theorem run_bind_eq_ok {x : Action α} {f : α → Action β} {b : β} :
    (x >>= f).run s = .ok (b, s') ↔
      ∃ a s₁, x.run s = .ok (a, s₁) ∧ (f a).run s₁ = .ok (b, s') := by
  rw [StateT.run_bind]
  cases h : x.run s with
  | error e => simp [bind, Except.bind]
  | ok p =>
    obtain ⟨a, s₁⟩ := p
    constructor
    · exact fun hf => ⟨a, s₁, rfl, hf⟩
    · rintro ⟨a', s₁', ⟨⟩, hf⟩
      exact hf

/-- Looking up a name changes nothing. -/
theorem run_look_eq_ok {kind name : String} {registry : Session → Registry α} {a : α} :
    (look kind registry name).run s = .ok (a, s') ↔ (registry s).get? name = some a ∧ s = s' := by
  unfold look
  rw [run_get_bind]
  cases h : (registry s).get? name with
  | none => simp only [run_throw, reduceCtorEq, false_and]
  | some b => simp only [run_pure, Except.ok.injEq, Prod.mk.injEq, Option.some.injEq]

theorem run_look_bind {kind name : String} {registry : Session → Registry α} {f : α → Action β} :
    (look kind registry name >>= f).run s =
      match (registry s).get? name with
      | some a => (f a).run s
      | none => .error ⟨kind, name⟩ := by
  rw [StateT.run_bind, look, run_get_bind]
  cases (registry s).get? name <;> rfl

theorem run_look_bind_eq_ok {kind name : String} {registry : Session → Registry α}
    {f : α → Action β} {b : β} :
    (look kind registry name >>= f).run s = .ok (b, s') ↔
      ∃ a, (registry s).get? name = some a ∧ (f a).run s = .ok (b, s') := by
  rw [run_bind_eq_ok]
  constructor
  · rintro ⟨a, s₁, hlook, hf⟩
    obtain ⟨ha, rfl⟩ := run_look_eq_ok.1 hlook
    exact ⟨a, ha, hf⟩
  · rintro ⟨a, ha, hf⟩
    exact ⟨a, s, run_look_eq_ok.2 ⟨ha, rfl⟩, hf⟩

theorem run_map_eq_ok {x : Action α} {f : α → β} {b : β} :
    (f <$> x).run s = .ok (b, s') ↔ ∃ a, x.run s = .ok (a, s') ∧ f a = b := by
  rw [map_eq_pure_bind, run_bind_eq_ok]
  constructor
  · rintro ⟨a, s₁, hx, hf⟩
    cases hf
    exact ⟨a, hx, rfl⟩
  · rintro ⟨a, hx, rfl⟩
    exact ⟨a, s', hx, rfl⟩

/-- An action whose answer comes without log entries. -/
theorem run_of_answer {x : Action Answer} {a : Answer × List Entry}
    (h : (do return (← x, []) : Action (Answer × List Entry)).run s = .ok (a, s')) :
    x.run s = .ok (a.1, s') := by
  obtain ⟨answer, s₁, hx, hpair⟩ := run_bind_eq_ok.1 h
  cases hpair
  exact hx

/-- Actions one after the other that change nothing. -/
theorem run_mapM_eq_ok {f : α → Action β}
    (hf : ∀ {a : α} {s s' : Session} {b : β}, (f a).run s = .ok (b, s') → s = s') {as : List α}
    {bs : List β} (h : (as.mapM f).run s = .ok (bs, s')) : s = s' := by
  induction as generalizing s bs with
  | nil =>
    cases h
    rfl
  | cons a as ih =>
    rw [List.mapM_cons] at h
    obtain ⟨b, s₁, hb, h⟩ := run_bind_eq_ok.1 h
    obtain ⟨bs', s₂, hbs, h⟩ := run_bind_eq_ok.1 h
    cases h
    obtain rfl := hf hb
    exact ih hbs

/-- Looking up the nodes of a plan changes nothing. -/
theorem run_targets_eq_ok {plan : List String} {targets : List Target}
    (h : (plan.mapM ExecutorCommand.target).run s = .ok (targets, s')) : s = s' := by
  refine run_mapM_eq_ok (fun {name s s' t} ht => ?_) h
  obtain ⟨node, -, ht⟩ := run_look_bind_eq_ok.1 ht
  cases ht
  rfl

end Action

/-- What holds of every value in a registry, under its name. -/
def Registry.All {α : Type} (P : String → α → Prop) (r : Registry α) : Prop :=
  ∀ name a, r.get? name = some a → P name a

namespace Registry.All

variable {α : Type} {P Q : String → α → Prop} {r : Registry α}

theorem empty : All P Registry.empty := nofun

theorem mono (h : All P r) (hPQ : ∀ name a, P name a → Q name a) : All Q r :=
  fun name a ha => hPQ name a (h name a ha)

/-- A value is put under a name, and the others stay what they are. -/
theorem set (h : All P r) {name : String} {a : α} (hname : Q name a)
    (hother : ∀ other b, other ≠ name → P other b → Q other b) : All Q (r.set name a) := by
  intro other b hb
  rw [get?_set] at hb
  split at hb
  next heq =>
    cases hb
    rw [heq]
    exact hname
  next hne => exact hother other b hne (h other b hb)

/-- A value is put under a name, of which the same holds as of the others. -/
theorem put (h : All P r) {name : String} {a : α} (ha : P name a) : All P (r.set name a) :=
  h.set ha fun _ _ _ hb => hb

end Registry.All

/-- **Flags may have been made or written**, and nothing else has changed. -/
inductive Session.MoreFlags (s : Session) : Session → Prop where
  | intro (flags : Flags) (count : Nat) (hle : s.store.flagCount ≤ count) :
      MoreFlags s { s with store := { s.store with flags := flags, flagCount := count } }

namespace Session.MoreFlags

variable {s s₁ s₂ : Session}

theorem refl (s : Session) : s.MoreFlags s := ⟨s.store.flags, s.store.flagCount, Nat.le_refl _⟩

theorem count_le (h : s.MoreFlags s₁) : s.store.flagCount ≤ s₁.store.flagCount := by
  obtain ⟨flags, count, hle⟩ := h
  exact hle

theorem cellCount_eq (h : s.MoreFlags s₁) : s₁.store.cellCount = s.store.cellCount := by
  cases h
  rfl

theorem trans (h : s.MoreFlags s₁) (h' : s₁.MoreFlags s₂) : s.MoreFlags s₂ := by
  obtain ⟨flags₁, count₁, hle₁⟩ := h
  obtain ⟨flags₂, count₂, hle₂⟩ := h'
  exact ⟨flags₂, count₂, Nat.le_trans hle₁ hle₂⟩

end Session.MoreFlags

end Reattempt
