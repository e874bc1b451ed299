import Mathlib.Data.List.Nodup
import Reattempt.Proofs.Sparing

/-!
# Restraint

Under a policy that is sparing with retries a run stays at a target only once,
at its very beginning, and then goes down the plan. So the plan bounds it as well
as the limit on retries does.

* `Lawful.moves`, `Lawful.position_add`: one step, and all of them.
* `Lawful.countP_le`, `Lawful.length_le`: how often targets are tried.
* `Restrained`: all that a sparing policy means for a run.
* `Executor.restrained`: every execution under such a policy is restrained.
* `execute_restrained`: the runs of the stock policies.
-/

namespace Reattempt

variable {σ τ ρ : Type}

namespace Lawful

variable {terms : Terms} {patience : Option Duration} {plan : Plan τ} {cluster : Cluster σ τ ρ}
  {store : Store} {state : σ} {as : List (Attempt τ ρ)} {i : Nat} {a b : Attempt τ ρ}

/-- **One step of a sparing policy** goes to the next target at the same level, or stays at the
first one. -/
theorem moves (h : Lawful terms patience plan cluster store state as)
    (hsparing : terms.policy.Sparing) (ha : as[i]? = some a) (hb : as[i + 1]? = some b) :
    (b.position = a.position + 1 ∧ b.consistency = a.consistency) ∨
      (i = 0 ∧ b.position = a.position) := by
  obtain ⟨e, v, level, ho, -, hlevel, ⟨hd, hposition⟩ | ⟨hd, hposition⟩⟩ := h.followed i a b ha hb
  · rw [h.decided i a e v ha ho] at hd
    exact .inr ⟨hsparing.same _ _ _ _ _ _ hd, hposition⟩
  · rw [h.decided i a e v ha ho] at hd
    obtain rfl := hsparing.next _ _ _ _ _ _ hd
    exact .inl ⟨hposition, hlevel⟩

/-- From the second attempt on, each one is at the next target. -/
theorem position_add (h : Lawful terms patience plan cluster store state as)
    (hsparing : terms.policy.Sparing) (hb : as[1]? = some b) (ha : as[i + 1]? = some a) :
    a.position = b.position + i := by
  induction i generalizing a with
  | zero => rw [hb] at ha; cases ha; rfl
  | succ i ih =>
    have hlt : i + 1 < as.length := Nat.lt_of_succ_lt (List.getElem?_eq_some_iff.1 ha).1
    have hprev := List.getElem?_eq_getElem hlt
    rcases h.moves hsparing hprev ha with ⟨hnext, -⟩ | ⟨h0, -⟩
    · rw [hnext, ih hprev, Nat.add_assoc]
    · cases h0

/-- **The first target is tried twice at most, each other one once.** -/
theorem countP_le (h : Lawful terms patience plan cluster store state as)
    (hsparing : terms.policy.Sparing) (k : Nat) :
    as.countP (fun a => a.position = k) ≤ if k = 0 then 2 else 1 := by
  cases as with
  | nil => simp
  | cons a rest =>
    have hfirst : a.position = 0 := h.position 0 a rfl
    -- after the first attempt no position comes twice
    have hnodup : (rest.map Attempt.position).Nodup := by
      cases rest with
      | nil => exact List.nodup_nil
      | cons b rest =>
        have hpositions : (b :: rest).map Attempt.position =
            List.range' b.position (b :: rest).length := by
          refine List.ext_getElem (by simp) fun i hi hi' => ?_
          rw [List.length_map] at hi
          rw [List.getElem_map, List.getElem_range', Nat.one_mul]
          exact h.position_add hsparing rfl (List.getElem?_eq_getElem (Nat.succ_lt_succ hi))
        rw [hpositions]
        exact List.nodup_range'
    have hrest : rest.countP (fun a => a.position = k) ≤ 1 := by
      have hcount := List.nodup_iff_count_le_one.1 hnodup k
      rwa [List.count, List.countP_map] at hcount
    rw [List.countP_cons, hfirst]
    by_cases hk : k = 0
    · simp only [hk, decide_true, if_true] at hrest ⊢
      omega
    · simp only [hk, Ne.symm hk, decide_false, Bool.false_eq_true, if_false]
      omega

/-- **The plan bounds the run.** -/
theorem length_le {targets : List τ}
    (h : Lawful terms patience (.ofList targets) cluster store state as)
    (hsparing : terms.policy.Sparing) : as.length ≤ targets.length + 1 := by
  by_contra hlt
  have h1 : as[1]? = some as[1] := List.getElem?_eq_getElem (by omega)
  have hlast : as[targets.length + 1]? = some as[targets.length + 1] :=
    List.getElem?_eq_getElem (by omega)
  have hposition := h.position_add hsparing h1 hlast
  have hitem : targets[as[targets.length + 1].position]? = some as[targets.length + 1].target :=
    (h.placed _ _ hlast).1
  have := (List.getElem?_eq_some_iff.1 hitem).1
  omega

end Lawful

/-- **A restrained run** over the given targets. -/
structure Restrained (limit : Nat) (targets : List τ) (r : Run σ τ ρ) : Prop where
  placed : ∀ a ∈ r.attempts, targets[a.position]? = some a.target
  /-- Another attempt at the same target comes directly after the first of all, or not at all. -/
  stays : ∀ i a b, r.attempts[i]? = some a → r.attempts[i + 1]? = some b →
    b.position = a.position → i = 0
  /-- The first target is tried twice at most, each other one once. -/
  counts : ∀ k, r.attempts.countP (fun a => a.position = k) ≤ if k = 0 then 2 else 1
  length : r.attempts.length ≤ min targets.length limit + 1
  /-- A missed quorum after the first attempt is given back. -/
  quorum : ∀ i a e v, r.attempts[i]? = some a → a.outcome = .failed e v → e.isQuorum = true →
    0 < i → i + 1 = r.attempts.length ∧ r.result = .failed (.lastAttempt e)

namespace Executor

variable (x : Executor) (s : Statement) (plan : Plan τ) (cluster : Cluster σ τ ρ)
  (patience : Option Duration) (store : Store) (state : σ)

/-- **Every execution under a sparing policy is restrained.** -/
theorem restrained (targets : List τ) (hsparing : (x.terms s store).policy.Sparing) :
    Restrained (x.terms s store).maxRetries targets
      (x.execute s (.ofList targets) cluster patience store state) := by
  have hlaw := x.attempts_lawful s (.ofList targets) cluster patience store state
  constructor
  case placed =>
    intro a ha
    obtain ⟨i, hi⟩ := List.mem_iff_getElem?.1 ha
    exact (hlaw.placed i a hi).1
  case stays =>
    intro i a b ha hb heq
    rcases hlaw.moves hsparing ha hb with ⟨hnext, -⟩ | ⟨h0, -⟩
    · omega
    · exact h0
  case counts => exact hlaw.countP_le hsparing
  case length =>
    have hplan := hlaw.length_le hsparing
    have hlimit := x.length_attempts s (.ofList targets) cluster patience store state
    omega
  case quorum =>
    intro i a e v ha ho he hi
    have hd : v.decision = .rethrow := by
      rw [hlaw.decided i a e v ha ho]
      exact hsparing.quorum _ _ _ _ _ he hi
    obtain ⟨hlast, hresult⟩ := x.of_rethrow s _ cluster patience store state ha ho hd
    refine ⟨hlast, hresult.trans ?_⟩
    rw [RequestError.ofAttempt_eq_lastAttempt_iff.2 ⟨rfl, fun t ht => by rw [ht] at he; cases he⟩]

/-- Over the standard policy every attempt is made at the level of the request. -/
theorem consistency_of_standard (hleaf : (x.terms s store).policy.policy.leaf = .standard)
    {i : Nat} {a : Attempt τ ρ}
    (ha : (x.execute s plan cluster patience store state).attempts[i]? = some a) :
    a.consistency = (x.terms s store).consistency := by
  have hlaw := x.attempts_lawful s plan cluster patience store state
  induction i generalizing a with
  | zero => exact hlaw.level 0 a ha
  | succ i ih =>
    have hlt := Nat.lt_of_succ_lt (List.getElem?_eq_some_iff.1 ha).1
    have hprev := List.getElem?_eq_getElem hlt
    obtain ⟨e, v, level, ho, -, hlevel, hmove⟩ := hlaw.followed i _ a hprev ha
    have hnone : v.decision.level? = none := by
      rw [hlaw.decided i _ e v hprev ho]
      exact Configured.level?_of_standard hleaf
    have hnamed : level = none := by
      rcases hmove with ⟨hd, -⟩ | ⟨hd, -⟩ <;> rw [hd] at hnone <;> exact hnone
    rw [hlevel, hnamed, ← ih hprev]
    rfl

/-- Over the downgrading policy the level changes between the first two attempts at the first
target, or not at all. -/
theorem consistency_of_downgrading (hleaf : (x.terms s store).policy.policy.leaf = .downgrading)
    (hsparing : (x.terms s store).policy.Sparing) {i : Nat} {a b : Attempt τ ρ}
    (ha : (x.execute s plan cluster patience store state).attempts[i]? = some a)
    (hb : (x.execute s plan cluster patience store state).attempts[i + 1]? = some b)
    (hne : b.consistency ≠ a.consistency) :
    i = 0 ∧ a.position = 0 ∧ b.position = 0 ∧
      b.consistency ∈ [Consistency.one, .two, .three] := by
  have hlaw := x.attempts_lawful s plan cluster patience store state
  rcases hlaw.moves hsparing ha hb with ⟨-, hsame⟩ | ⟨rfl, hposition⟩
  · exact absurd hsame hne
  have hfirst : a.position = 0 := hlaw.position 0 a ha
  obtain ⟨e, v, level, ho, -, hlevel, ⟨hd, -⟩ | ⟨-, hnext⟩⟩ := hlaw.followed 0 a b ha hb
  · cases level with
    | none => exact absurd hlevel hne
    | some lower =>
      rw [hlaw.decided 0 a e v ha ho] at hd
      have hlower : b.consistency = lower := hlevel
      rw [hlower]
      exact ⟨rfl, hfirst, hposition.trans hfirst, Configured.lower_of_downgrading hleaf hd⟩
  · omega

/-- Over the downgrading policy only the first attempt can be ignored, as a simple or a batch write
that some replica has acknowledged. -/
theorem of_ignored_downgrading (hleaf : (x.terms s store).policy.policy.leaf = .downgrading)
    (h : (x.execute s plan cluster patience store state).result = .ignored) :
    ∃ a v reported received required writeType text,
      (x.execute s plan cluster patience store state).attempts = [a] ∧
        a.outcome = .failed (.db (.writeTimeout reported received required writeType) text) v ∧
        (writeType = .simple ∨ writeType = .batch) ∧ 1 ≤ received := by
  obtain ⟨i, a, e, v, ha, hlast, ho, hd⟩ := x.of_ignored s plan cluster patience store state h
  have hlaw := x.attempts_lawful s plan cluster patience store state
  rw [hlaw.decided i a e v ha ho] at hd
  obtain ⟨rfl, reported, received, required, writeType, text, rfl, hw, hr⟩ :=
    Configured.of_ignore_downgrading hleaf hd
  obtain ⟨b, hb⟩ := List.length_eq_one_iff.1 hlast.symm
  rw [hb] at ha
  cases ha
  exact ⟨a, v, reported, received, required, writeType, text, hb, ho, hw, hr⟩

/-- A base policy over a sparing leaf makes two attempts at most. -/
theorem length_attempts_base {p : Policy} (hp : (x.terms s store).policy = .base p)
    (hleaf : p.leaf.Sparing) :
    (x.execute s plan cluster patience store state).attempts.length ≤ 2 := by
  have hlaw := x.attempts_lawful s plan cluster patience store state
  by_contra hlt
  -- the second attempt would have to lead to a third one
  have h1 := List.getElem?_eq_getElem
    (show 1 < (x.execute s plan cluster patience store state).attempts.length by omega)
  have h2 := List.getElem?_eq_getElem
    (show 2 < (x.execute s plan cluster patience store state).attempts.length by omega)
  obtain ⟨e, v, level, ho, -, -, hmove⟩ := hlaw.followed 1 _ _ h1 h2
  have hd : v.decision = .rethrow := by
    rw [hlaw.decided 1 _ e v h1 ho, hp]
    exact hleaf.decide_base Nat.one_pos _ _ _ _
  rw [hd] at hmove
  rcases hmove with ⟨hd', -⟩ | ⟨hd', -⟩ <;> cases hd'

end Executor

/-- **The runs of the stock policies**, under any layers. Over given targets, an attempt at the same
target comes directly after the first attempt only, so the first target is tried twice at most and
each other one once, and a missed quorum after the first attempt is given back. The standard policy
keeps the level and ignores no failure; the downgrading policy may lower the level once, for the
second attempt at the first target, and may ignore the first failure if a simple or a batch write
has been acknowledged. As base policies they make two attempts at most. -/
theorem execute_restrained (x : Executor) (s : Statement) (targets : List τ)
    (cluster : Cluster σ τ ρ) (patience : Option Duration) (store : Store) (state : σ)
    (hleaf : (x.terms s store).policy.policy.leaf = .standard ∨
      (x.terms s store).policy.policy.leaf = .downgrading) :
    let terms := x.terms s store
    let r := x.execute s (.ofList targets) cluster patience store state
    Restrained terms.maxRetries targets r ∧
    (terms.policy.policy.leaf = .standard →
      (∀ a ∈ r.attempts, a.consistency = terms.consistency) ∧ r.result ≠ .ignored) ∧
    (terms.policy.policy.leaf = .downgrading →
      (∀ i a b, r.attempts[i]? = some a → r.attempts[i + 1]? = some b →
        b.consistency ≠ a.consistency →
        i = 0 ∧ a.position = 0 ∧ b.position = 0 ∧
          b.consistency ∈ [Consistency.one, .two, .three]) ∧
      (r.result = .ignored → ∃ a v reported received required writeType text,
        r.attempts = [a] ∧
          a.outcome = .failed (.db (.writeTimeout reported received required writeType) text) v ∧
          (writeType = .simple ∨ writeType = .batch) ∧ 1 ≤ received)) ∧
    (terms.policy.supportsExtended = false → r.attempts.length ≤ min 1 terms.maxRetries + 1) := by
  intro terms r
  have hsparing : terms.policy.policy.leaf.Sparing := by
    rcases hleaf with hleaf | hleaf
    · exact hleaf ▸ Leaf.sparing_standard
    · exact hleaf ▸ Leaf.sparing_downgrading
  have hlaw := x.attempts_lawful s (.ofList targets) cluster patience store state
  refine ⟨x.restrained s cluster patience store state targets hsparing.configured,
    fun hstandard => ⟨fun a ha => ?_, fun hignored => ?_⟩,
    fun hdowngrading => ⟨fun i a b => ?_, ?_⟩, fun hbase => ?_⟩
  · obtain ⟨i, hi⟩ := List.mem_iff_getElem?.1 ha
    exact x.consistency_of_standard s _ cluster patience store state hstandard hi
  · obtain ⟨i, a, e, v, ha, -, ho, hd⟩ := x.of_ignored s _ cluster patience store state hignored
    rw [hlaw.decided i a e v ha ho] at hd
    exact Configured.ne_ignore_of_standard hstandard hd
  · exact x.consistency_of_downgrading s _ cluster patience store state hdowngrading
      hsparing.configured
  · exact x.of_ignored_downgrading s _ cluster patience store state hdowngrading
  · have hlimit : r.attempts.length ≤ terms.maxRetries + 1 :=
      x.length_attempts s (.ofList targets) cluster patience store state
    cases hp : terms.policy with
    | base p =>
      rw [hp] at hsparing
      have htwo : r.attempts.length ≤ 2 :=
        x.length_attempts_base s _ cluster patience store state hp hsparing
      omega
    | extended p =>
      rw [hp] at hbase
      cases hbase

/-- Replicas are missing at first, then the first target is overloaded, and the second one
answers. -/
def Cluster.recovering : Cluster Nat Bool Unit where
  address second := ⟨if second then "10.0.0.2:9042" else "10.0.0.1:9042"⟩
  call calls _ level :=
    (⟨[], some (⟨0⟩, match calls with
      | 0 => .error (.db (.unavailable level 2 1) "missing")
      | 1 => .error (.db .overloaded "busy")
      | _ => .ok ())⟩, calls + 1)

/-- Two targets are tried three times, and the level is lowered once. -/
theorem execute_restrained_recovering :
    let policy : Policy := ⟨[.logging, .gate ⟨⟨0⟩, .always⟩], .downgrading⟩
    let s : Statement := ⟨.ofText "SELECT", some (.extended policy), none⟩
    let r := (Executor.mk ⟨0, none⟩).execute s (.ofList [false, true]) .recovering none .empty 0
    ((Executor.mk ⟨0, none⟩).terms s .empty).policy.policy.leaf = .downgrading ∧
      r.attempts.map (fun a => (a.position, a.consistency)) =
        [(0, .localQuorum), (0, .one), (1, .one)] ∧
      r.attempts.length = min 2 10 + 1 ∧ r.result ≠ .ignored := by
  intro policy s r
  have hattempts : r.attempts.map (fun a => (a.position, a.consistency)) =
      [(0, .localQuorum), (0, .one), (1, .one)] := by decide +kernel
  have hlength : r.attempts.length = 3 := by
    rw [← List.length_map (fun a : Attempt Bool Unit => (a.position, a.consistency)), hattempts]
    rfl
  obtain ⟨hrun, -, hdowngrading, -⟩ :=
    execute_restrained ⟨⟨0, none⟩⟩ s [false, true] .recovering none .empty 0 (.inr rfl)
  refine ⟨rfl, hattempts, Nat.le_antisymm hrun.length (Nat.le_of_eq hlength.symm), ?_⟩
  intro hignored
  obtain ⟨a, -, -, -, -, -, -, hsingle, -⟩ := (hdowngrading rfl).2 hignored
  have hone : r.attempts.length = 1 := by rw [show r.attempts = _ from hsingle]; rfl
  omega

end Reattempt
