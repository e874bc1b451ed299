import Reattempt.Consistency.Basic

/-!
# Serial consistency levels

The two levels of conditional writes as a type of their own.

* `SerialConsistency.level`: the general level of a serial one.
* `SerialConsistency.ofLevel?`: its inverse, which refuses the other levels.
* `SerialConsistency.ofCode?`: the serial level of a protocol number.
-/

namespace Reattempt

/-- A consistency level of conditional writes. -/
inductive SerialConsistency where
  | serial
  | localSerial
  deriving DecidableEq, Repr

/-- A level that was to be serial and is not. -/
structure NotSerial where
  level : Consistency
  deriving DecidableEq

/-- The wording of a level that is not serial. -/
def NotSerial.message (e : NotSerial) : String :=
  "Expected Consistency Serial or LocalSerial, got: " ++ e.level.title

namespace SerialConsistency

/-- The two serial levels. -/
def levels : List SerialConsistency := [serial, localSerial]

/-- The general level of a serial one. -/
def level : SerialConsistency → Consistency
  | serial => .serial
  | localSerial => .localSerial

/-- The name of a serial level in running text. -/
def title (s : SerialConsistency) : String := s.level.title

/-- The protocol number of a serial level. -/
def code : SerialConsistency → Int16
  | serial => 8
  | localSerial => 9

/-- The serial level of a protocol number. -/
def ofCode? (n : Int16) : Except UnknownCode SerialConsistency :=
  match levels.find? (·.code == n) with
  | some s => .ok s
  | none => .error ⟨"SerialConsistency", n.toInt⟩

/-- The serial level of a general one. -/
def ofLevel? : Consistency → Except NotSerial SerialConsistency
  | .serial => .ok serial
  | .localSerial => .ok localSerial
  | c => .error ⟨c⟩

theorem ofLevel?_level (s : SerialConsistency) : ofLevel? s.level = .ok s := by cases s <;> rfl

end SerialConsistency

end Reattempt
