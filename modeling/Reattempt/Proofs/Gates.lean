import Reattempt.Policy.Configured

/-!
# Gates

A gate that does not take a query for idempotent stops every replay that may be
harmful, wherever it stands among the layers.

* `AttemptError.mayHaveApplied`: the errors after which a write may stand.
* `Policy.Bars`: some gate of a policy does not let a query be replayed.
* `Policy.decide_of_bars`, `Configured.decide_of_bars`: then the answer is to
  give up, and the leaf is not asked.
-/

namespace Reattempt

/-- Whether a write may have been applied although the attempt failed so. -/
def AttemptError.mayHaveApplied : AttemptError → Bool
  | db (.writeTimeout ..) _ | db .overloaded _ | db .internalError _ | db .truncateFailed _
  | db .bootstrapping _ | noFreeStream | clientTimeout _ => true
  | db (.readTimeout ..) _ | db (.unavailable ..) _ | db (.rejected _) _ | db (.other _) _
  | brokenConnection _ => false

/-- Such an error is put to the policy as a failure of a category that says so. -/
theorem Failure.ofError?_of_mayHaveApplied {e : AttemptError} (h : e.mayHaveApplied = true)
    (q : Query) (c : Consistency) (n : Nat) :
    ∃ f, ofError? q c n e = some f ∧ f.query = q ∧ f.category.mayHaveApplied = true := by
  cases e with
  | db e text => cases e <;> first | exact ⟨_, rfl, rfl, rfl⟩ | cases h
  | brokenConnection reason => cases h
  | noFreeStream => exact ⟨_, rfl, rfl, rfl⟩
  | clientTimeout limit => exact ⟨_, rfl, rfl, rfl⟩

/-- A resolver that goes by the declaration and the flag. -/
theorem Gate.admits_declared_eq_false_iff {g : Gate} (hg : g.resolver = .declared) {flags : Flags}
    {q : Query} :
    g.admits flags q = false ↔
      q.isIdempotent = some false ∨ (q.isIdempotent = none ∧ flags g.flag = false) := by
  unfold admits
  rw [hg]
  cases hq : q.isIdempotent <;> simp [Resolver.declared, hq]

namespace Policy

/-- A policy is a leaf, or has a layer around another policy. -/
@[elab_as_elim]
theorem induction {motive : Policy → Prop} (ofLeaf : ∀ l, motive (ofLeaf l))
    (under : ∀ l p, motive p → motive (under l p)) (p : Policy) : motive p := by
  obtain ⟨layers, leaf⟩ := p
  induction layers with
  | nil => exact ofLeaf leaf
  | cons l inner ih => exact under l ⟨inner, leaf⟩ ih

/-- Some gate of a policy does not take a query for idempotent, at the flags' present values. -/
def Bars (flags : Flags) (p : Policy) (q : Query) : Prop := ∃ g ∈ p.gates, g.admits flags q = false

variable {flags : Flags} {p : Policy} {q : Query}

theorem not_bars_ofLeaf (l : Leaf) : ¬ (ofLeaf l).Bars flags q := by
  simp [Bars, gates, ofLeaf]

theorem bars_under_logging : (p.under .logging).Bars flags q ↔ p.Bars flags q := by
  simp [Bars, gates, under, Layer.gate?]

theorem bars_under_gate {g : Gate} :
    (p.under (.gate g)).Bars flags q ↔ g.admits flags q = false ∨ p.Bars flags q := by
  simp [Bars, gates, under, Layer.gate?]

/-- **A gate stops a replay that may be harmful**, whatever stands around it or inside. -/
theorem decide_of_bars {f : Failure} (h : p.Bars flags f.query)
    (hf : f.category.mayHaveApplied = true) : p.decide flags f = Verdict.stopped := by
  induction p using Policy.induction with
  | ofLeaf l => exact absurd h (not_bars_ofLeaf l)
  | under l p ih =>
    rw [decide_under]
    cases l with
    | logging =>
      rw [Layer.decide, ih (bars_under_logging.1 h)]
      rfl
    | gate g =>
      cases hg : g.admits flags f.query with
      | false => simp [Layer.decide, hf, hg]
      -- this gate lets the failure pass, so it is another one that bars
      | true =>
        have hinner := (bars_under_gate.1 h).resolve_left (by simp [hg])
        simpa [Layer.decide, hg] using ih hinner

end Policy

/-- **An error after which a write may stand is given back** where a gate bars the replay. -/
theorem Configured.decide_of_bars {flags : Flags} {p : Policy} {q : Query} {e : AttemptError}
    (h : p.Bars flags q) (he : e.mayHaveApplied = true) (c : Consistency) (n : Nat) :
    (extended p).decide flags q c e n = Verdict.stopped := by
  obtain ⟨f, hf, rfl, hcat⟩ := Failure.ofError?_of_mayHaveApplied he q c n
  simp only [Configured.decide, hf, ask]
  exact Policy.decide_of_bars h hcat

end Reattempt
