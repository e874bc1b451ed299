import Reattempt.Proofs.Gates

/-!
# What layers mean

A policy answers as its leaf does, which is asked once, about the very failure
the policy was asked about; or else a gate stops the replay, and the leaf is not
asked at all. Neither the order of the layers nor their number matters.

* `Policy.stops`: some gate stops a failure.
* `Policy.answer_decide`: the answer of a policy, read off its leaf and gates.
* `Policy.answer_congr`: the same leaf and the same set of gates answer alike.
* `Policy.decide_layers`: the meaning of any layers over any leaf.
-/

namespace Reattempt

/-- A verdict without the remarks: the decision, and what the leaf was asked about. -/
def Verdict.answer (v : Verdict) : Decision × List Failure := (v.decision, v.consulted)

@[simp] theorem Verdict.answer_logged (v : Verdict) (f : Failure) :
    (v.logged f).answer = v.answer := by
  unfold logged
  split <;> rfl

namespace Policy

variable {flags : Flags} {p q : Policy} {f : Failure}

/-- Whether some gate stops a failure: a write may stand after it, and the gate does not take the
query for idempotent. -/
def stops (flags : Flags) (p : Policy) (f : Failure) : Bool :=
  f.category.mayHaveApplied && p.gates.any fun g => !g.admits flags f.query

theorem stops_iff :
    p.stops flags f = true ↔ f.category.mayHaveApplied = true ∧ p.Bars flags f.query := by
  simp [stops, Bars]

theorem stops_under_logging : (p.under .logging).stops flags f = p.stops flags f := rfl

theorem stops_under_gate {g : Gate} :
    (p.under (.gate g)).stops flags f =
      (f.category.mayHaveApplied && !g.admits flags f.query || p.stops flags f) := by
  have hgates : (p.under (.gate g)).gates = g :: p.gates := rfl
  unfold stops
  rw [hgates, List.any_cons, Bool.and_or_distrib_left]

/-- **The answer of a policy**, read off its leaf and its gates. -/
theorem answer_decide (flags : Flags) (p : Policy) (f : Failure) :
    (p.decide flags f).answer =
      if p.stops flags f then (.rethrow, []) else (p.leaf.decide f, [f]) := by
  induction p using Policy.induction with
  | ofLeaf l =>
    have hstops : (ofLeaf l).stops flags f = false := by simp [stops, gates, ofLeaf]
    rw [hstops]
    rfl
  | under l p ih =>
    rw [decide_under]
    cases l with
    | logging =>
      have hlogged : (Layer.logging.decide flags (p.decide flags) f).answer =
          (p.decide flags f).answer := Verdict.answer_logged _ f
      rw [hlogged, ih, stops_under_logging]
      rfl
    | gate g =>
      have hleaf : (p.under (.gate g)).leaf = p.leaf := rfl
      rw [stops_under_gate, hleaf]
      cases hg : f.category.mayHaveApplied && !g.admits flags f.query with
      -- this gate stops the failure itself
      | true =>
        have hstopped : (Layer.gate g).decide flags (p.decide flags) f = Verdict.stopped :=
          if_pos hg
        rw [hstopped]
        rfl
      -- it lets the failure pass, unchanged
      | false =>
        have hpassed : (Layer.gate g).decide flags (p.decide flags) f = p.decide flags f :=
          if_neg (by rw [hg]; exact Bool.false_ne_true)
        rw [hpassed, ih, Bool.false_or]

/-- **Only the set of gates counts**, and the leaf. -/
theorem answer_congr (hleaf : q.leaf = p.leaf) (hgates : ∀ g, g ∈ q.gates ↔ g ∈ p.gates) :
    (q.decide flags f).answer = (p.decide flags f).answer := by
  have hbars : q.Bars flags f.query ↔ p.Bars flags f.query := by
    unfold Bars
    simp only [hgates]
  have hstops : q.stops flags f = p.stops flags f := by
    rw [Bool.eq_iff_iff, stops_iff, stops_iff, hbars]
  rw [answer_decide, answer_decide, hstops, hleaf]

/-- A policy with its gates alone. -/
def unlogged (p : Policy) : Policy := ⟨p.layers.filter fun l => l.gate?.isSome, p.leaf⟩

theorem gates_unlogged : p.unlogged.gates = p.gates := by
  unfold gates unlogged
  rw [List.filterMap_filter]
  congr 1
  funext l
  cases l <;> rfl

theorem mem_gates_of_perm {layers : List Layer} (h : layers.Perm p.layers) (g : Gate) :
    g ∈ (Policy.mk layers p.leaf).gates ↔ g ∈ p.gates :=
  (h.filterMap Layer.gate?).mem_iff

theorem mem_gates_iff {g : Gate} : g ∈ p.gates ↔ Layer.gate g ∈ p.layers := by
  unfold gates
  rw [List.mem_filterMap]
  constructor
  · rintro ⟨l, hl, hg⟩
    cases l with
    | logging => cases hg
    | gate g' => cases hg; exact hl
  · exact fun hg => ⟨_, hg, rfl⟩

/-- **The meaning of any layers over any leaf.** After a failure that may have applied a write, any
gate that does not take the query for idempotent makes the policy give up, and the leaf is not
asked. In every other case the leaf is asked once, about the failure as it is, and its decision is
the policy's. So the answer depends on the leaf and the set of gates alone: layers may be put in
another order, a gate may be repeated anywhere, and logging layers may be left out. -/
theorem decide_layers (flags : Flags) (p : Policy) (f : Failure) :
    let v := p.decide flags f
    let harmful := f.category ∈ [.writeTimeout, .clientTimeout, .unexpectedError] ∧
      ∃ g ∈ p.gates, g.admits flags f.query = false
    (harmful → v.decision = .rethrow ∧ v.consulted = []) ∧
    (¬ harmful → v.decision = p.leaf.decide f ∧ v.consulted = [f]) ∧
    (∀ q : Policy, q.leaf = p.leaf → (∀ g, g ∈ q.gates ↔ g ∈ p.gates) →
      (q.decide flags f).answer = v.answer) ∧
    (∀ layers, layers.Perm p.layers →
      ((Policy.mk layers p.leaf).decide flags f).answer = v.answer) ∧
    (∀ outer g inner, p.layers = outer ++ inner → .gate g ∈ p.layers →
      ((Policy.mk (outer ++ .gate g :: inner) p.leaf).decide flags f).answer = v.answer) ∧
    (p.unlogged.decide flags f).answer = v.answer := by
  intro v harmful
  have hanswer := answer_decide flags p f
  have hharmful : p.stops flags f = true ↔ harmful := by
    rw [stops_iff]
    refine and_congr_left fun _ => ?_
    cases f.category <;> simp [Category.mayHaveApplied]
  refine ⟨fun h => ?_, fun h => ?_, fun q => answer_congr, fun layers h => ?_, ?_, ?_⟩
  · rw [if_pos (hharmful.2 h)] at hanswer
    exact Prod.mk.inj hanswer
  · rw [if_neg (mt hharmful.1 h)] at hanswer
    exact Prod.mk.inj hanswer
  · exact answer_congr rfl (mem_gates_of_perm h)
  · intro outer g inner hlayers hg
    refine answer_congr rfl fun g' => ?_
    rw [mem_gates_iff, mem_gates_iff, hlayers]
    rw [hlayers] at hg
    simp only [List.mem_append, List.mem_cons] at hg ⊢
    constructor
    · rintro (h | h | h)
      · exact .inl h
      · exact h ▸ hg
      · exact .inr h
    · exact fun h => h.elim .inl fun h => .inr (.inr h)
  · exact answer_congr rfl fun g => by rw [gates_unlogged]

end Policy

end Reattempt
