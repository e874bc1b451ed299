import Reattempt.Profile.Basic

/-!
# Shared places

Flags and handles are shared: whoever holds a clone reads what was written
last through any other. A store holds what is in these places. Places are
numbered in the order in which they are made.

* `Handle`: a place that points to a profile, with a label.
* `Store.newFlag`, `Store.setFlag`: make a flag, write it.
* `Store.newHandle`, `Store.remap`: make a handle, let it point elsewhere.
* `Effect`, `Store.apply`: writes as data.
-/

namespace Reattempt

/-- A shared place that points to a profile. Clones have the same cell. -/
structure Handle where
  cell : Nat
  /-- A name to tell handles apart. -/
  label : Option String
  deriving DecidableEq, Repr

/-- The contents of all shared places. -/
structure Store where
  flags : Flags
  /-- How many flags have been made. -/
  flagCount : Nat
  /-- The profile that each cell points to. -/
  pointee : Nat → Profile
  /-- How many cells have been made. -/
  cellCount : Nat

namespace Store

/-- A store in which nothing has been made. -/
def empty : Store := ⟨fun _ => false, 0, fun _ => .initial ⟨0⟩, 0⟩

/-- Write a flag, for all its clones. -/
def setFlag (s : Store) (flag : Flag) (value : Bool) : Store :=
  { s with flags := fun f => if f = flag then value else s.flags f }

/-- Make a flag with a first value. -/
def newFlag (s : Store) (value : Bool) : Flag × Store :=
  let flag : Flag := ⟨s.flagCount⟩
  (flag, { s.setFlag flag value with flagCount := s.flagCount + 1 })

/-- The profile that a handle points to. -/
def profile (s : Store) (h : Handle) : Profile := s.pointee h.cell

/-- Let a handle, and all its clones, point to another profile. -/
def remap (s : Store) (h : Handle) (p : Profile) : Store :=
  { s with pointee := fun c => if c = h.cell then p else s.pointee c }

/-- Make a handle that points to a profile. -/
def newHandle (s : Store) (p : Profile) (label : Option String) : Handle × Store :=
  let handle : Handle := ⟨s.cellCount, label⟩
  (handle, { s.remap handle p with cellCount := s.cellCount + 1 })

end Store

/-- A write to a shared place. -/
inductive Effect where
  | setFlag (flag : Flag) (value : Bool)
  | remap (handle : Handle) (profile : Profile)

namespace Store

/-- Do one write. -/
def apply (s : Store) : Effect → Store
  | .setFlag flag value => s.setFlag flag value
  | .remap handle profile => s.remap handle profile

/-- Do writes one after the other. -/
def applyAll (s : Store) (effects : List Effect) : Store := effects.foldl apply s

@[simp] theorem flags_setFlag (s : Store) (f g : Flag) (b : Bool) :
    (s.setFlag f b).flags g = if g = f then b else s.flags g := rfl

@[simp] theorem flags_remap (s : Store) (h : Handle) (p : Profile) :
    (s.remap h p).flags = s.flags := rfl

@[simp] theorem profile_setFlag (s : Store) (f : Flag) (b : Bool) (h : Handle) :
    (s.setFlag f b).profile h = s.profile h := rfl

theorem profile_remap (s : Store) (h k : Handle) (p : Profile) :
    (s.remap h p).profile k = if k.cell = h.cell then p else s.profile k := rfl

end Store

end Reattempt
