/-!
# Registries

Values under names. Writing to a name replaces what was there.

* `Registry.get?`, `Registry.set`: read and write a name.
* `Registry.get?_set`: a name holds what was written to it last.
-/

namespace Reattempt

/-- Values under names, each name once. -/
structure Registry (α : Type) where
  entries : List (String × α)

namespace Registry

variable {α : Type}

/-- No names. -/
def empty : Registry α := ⟨[]⟩

/-- The first entry of a name. -/
def find (name : String) : List (String × α) → Option α
  | [] => none
  | (n, a) :: rest => if n = name then some a else find name rest

/-- The entries with a value put under a name. -/
def put (name : String) (a : α) : List (String × α) → List (String × α)
  | [] => [(name, a)]
  | (n, b) :: rest => if n = name then (n, a) :: rest else (n, b) :: put name a rest

/-- The value under a name. -/
def get? (r : Registry α) (name : String) : Option α := find name r.entries

/-- Write a value under a name. -/
def set (r : Registry α) (name : String) (a : α) : Registry α := ⟨put name a r.entries⟩

theorem find_put (name other : String) (a : α) (entries : List (String × α)) :
    find other (put name a entries) = if other = name then some a else find other entries := by
  induction entries with
  | nil =>
    simp only [put, find]
    by_cases h : other = name
    · simp [h]
    · simp [h, Ne.symm h]
  | cons entry rest ih =>
    obtain ⟨n, b⟩ := entry
    by_cases hn : n = name
    · subst hn
      by_cases ho : other = n
      · simp [put, find, ho]
      · simp [put, find, ho, Ne.symm ho]
    · by_cases ho : n = other
      · subst ho
        simp [put, find, hn]
      · simp [put, find, hn, ho, ih]

theorem get?_set (r : Registry α) (name other : String) (a : α) :
    (r.set name a).get? other = if other = name then some a else r.get? other :=
  find_put name other a r.entries

end Registry

end Reattempt
