/-!
# Durations

A duration is a number of nanoseconds. Its text takes the largest of the units
`s`, `ms`, `µs`, `ns` that fits at least once, and writes the rest as a decimal
fraction without zeros at its end.

* `Duration.ofSeconds`, `Duration.ofMillis`: durations from other units.
* `Duration.text`: `30s`, `1.5µs`, `0ns`.
-/

namespace Reattempt

/-- A span of time in nanoseconds. -/
structure Duration where
  nanos : Nat
  deriving DecidableEq, Repr

namespace Duration

/-- Whole seconds and the nanoseconds beyond them. -/
def ofSeconds (seconds nanos : Nat) : Duration := ⟨seconds * 1000000000 + nanos⟩

/-- Whole milliseconds. -/
def ofMillis (millis : Nat) : Duration := ⟨millis * 1000000⟩

/-- The whole seconds of a duration. -/
def seconds (d : Duration) : Nat := d.nanos / 1000000000

/-- The nanoseconds beyond the whole seconds. -/
def subsecNanos (d : Duration) : Nat := d.nanos % 1000000000

/-- The whole milliseconds of a duration. -/
def millis (d : Duration) : Nat := d.nanos / 1000000

instance : Add Duration := ⟨fun a b => ⟨a.nanos + b.nanos⟩⟩

instance : LE Duration := ⟨fun a b => a.nanos ≤ b.nanos⟩

instance (a b : Duration) : Decidable (a ≤ b) := inferInstanceAs (Decidable (a.nanos ≤ b.nanos))

theorem le_of_not_le {a b : Duration} (h : ¬ a ≤ b) : b ≤ a := Nat.le_of_not_le h

theorem add_le_of_le {a b c d : Duration} (h : a ≤ b) (hb : c + b ≤ d) : c + a ≤ d :=
  Nat.le_trans (Nat.add_le_add_left h c.nanos) hb

protected theorem zero_add (a : Duration) : ⟨0⟩ + a = a := congrArg mk (Nat.zero_add _)

protected theorem add_assoc (a b c : Duration) : a + b + c = a + (b + c) :=
  congrArg mk (Nat.add_assoc ..)

/-- The digits of `n` at so many places behind the point, without zeros at the end. -/
def fraction (places n : Nat) : List Char :=
  let digits := Nat.toDigits 10 n
  let padded := List.replicate (places - digits.length) '0' ++ digits
  (padded.reverse.dropWhile (· == '0')).reverse

/-- A count of a unit that is a power of ten in nanoseconds, the rest as a fraction. -/
def inUnit (nanos places : Nat) (unit : String) : String :=
  let size := Nat.pow 10 places
  let whole := toString (nanos / size)
  match fraction places (nanos % size) with
  | [] => whole ++ unit
  | digits => whole ++ "." ++ String.ofList digits ++ unit

/-- The text of a duration, in its largest unit that is not zero. -/
def text (d : Duration) : String :=
  if 1000000000 ≤ d.nanos then inUnit d.nanos 9 "s"
  else if 1000000 ≤ d.nanos then inUnit d.nanos 6 "ms"
  else if 1000 ≤ d.nanos then inUnit d.nanos 3 "µs"
  else inUnit d.nanos 0 "ns"

end Duration

end Reattempt
