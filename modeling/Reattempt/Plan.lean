/-!
# Plans

A plan gives targets one after the other, on demand and perhaps without end.

* `Plan.item`: the target at a position; a plan ends at its first gap.
* `Plan.ofList`, `Plan.cycle`: finite and endless plans.
* `Plan.followedBy`: one plan after another one, which may have no end.
* `ofList_followedBy`: for finite plans this is the plan of all targets in a row.
-/

namespace Reattempt

/-- The targets of a request, in the order in which they are tried. -/
structure Plan (τ : Type) where
  /-- The target at a position, if the plan reaches it. -/
  item : Nat → Option τ

namespace Plan

variable {τ : Type}

/-- The plan of the given targets. -/
def ofList (targets : List τ) : Plan τ := ⟨fun i => targets[i]?⟩

/-- The plan that goes round the given targets forever. -/
def cycle (targets : List τ) : Plan τ := ⟨fun i => targets[i % targets.length]?⟩

/-- Where a plan ends, if it does so up to a position. -/
def end? (p : Plan τ) (i : Nat) : Option Nat :=
  (List.range (i + 1)).find? fun n => (p.item n).isNone

/-- The targets of a plan, and then those of another one. -/
def followedBy (p q : Plan τ) : Plan τ :=
  ⟨fun i =>
    match p.end? i with
    | some n => q.item (i - n)
    | none => p.item i⟩

theorem item_followedBy_of_lt {p : Plan τ} {n i : Nat} (h : ∀ j < n, (p.item j).isSome)
    (hi : i < n) (q : Plan τ) : (p.followedBy q).item i = p.item i := by
  have hend : p.end? i = none := by
    refine List.find?_eq_none.2 fun j hj => ?_
    have hj' : j < n := by rw [List.mem_range] at hj; omega
    simpa [Option.isSome_iff_ne_none] using h j hj'
  simp only [followedBy, hend]

theorem item_followedBy_add {p : Plan τ} {n : Nat} (h : ∀ j < n, (p.item j).isSome)
    (hn : p.item n = none) (q : Plan τ) (i : Nat) : (p.followedBy q).item (i + n) = q.item i := by
  have hend : p.end? (i + n) = some n := by
    refine List.find?_range_eq_some.2 ⟨by rw [hn]; rfl, List.mem_range.2 (by omega), ?_⟩
    exact fun j hj => by simpa using h j hj
  simp only [followedBy, hend, Nat.add_sub_cancel]

/-- Of two finite plans, one after the other, the targets come in a row. -/
theorem ofList_followedBy (xs ys : List τ) :
    (ofList xs).followedBy (ofList ys) = ofList (xs ++ ys) := by
  have hitems : ∀ j < xs.length, ((ofList xs).item j).isSome := fun j hj => by
    simpa [ofList] using hj
  have hend : (ofList xs).item xs.length = none := List.getElem?_eq_none (Nat.le_refl _)
  have hitem : ∀ i, ((ofList xs).followedBy (ofList ys)).item i = (xs ++ ys)[i]? := by
    intro i
    by_cases hi : i < xs.length
    · rw [item_followedBy_of_lt hitems hi, List.getElem?_append_left hi]
      rfl
    · obtain ⟨d, rfl⟩ := Nat.exists_eq_add_of_le' (Nat.le_of_not_lt hi)
      rw [item_followedBy_add hitems hend, List.getElem?_append_right (Nat.le_add_left _ _),
        Nat.add_sub_cancel]
      rfl
  exact congrArg mk (funext hitem)

end Plan

end Reattempt
