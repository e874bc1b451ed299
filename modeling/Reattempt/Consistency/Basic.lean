/-!
# Consistency levels

How many replicas must take part before a request counts as done. Each level
has a protocol number, a protocol name and a title.

* `Consistency.code`, `Consistency.ofCode?`: the protocol number, both ways.
* `Consistency.name`: the protocol name, such as `LOCAL_QUORUM`.
* `Consistency.title`: the name in running text, such as `LocalQuorum`.
* `Consistency.isSerial`: the two levels of conditional writes.
* `Consistency.sort`: levels in the order of their numbers.
* `ofCode?_code`, `ofTitle?_title`: the number and the title of a level are read
  back as that level.
-/

namespace Reattempt

/-- A consistency level, in the order of the protocol numbers. -/
inductive Consistency where
  | any
  | one
  | two
  | three
  | quorum
  | all
  | localQuorum
  | eachQuorum
  | serial
  | localSerial
  | localOne
  deriving DecidableEq, Repr

/-- A protocol number that belongs to no member of the type it was read as. -/
structure UnknownCode where
  /-- The name of the type. -/
  kind : String
  code : Int
  deriving DecidableEq

/-- The wording of an unknown protocol number. -/
def UnknownCode.message (e : UnknownCode) : String :=
  "No discrimant in enum `" ++ e.kind ++ "` matches the value `" ++ toString e.code ++ "`"

namespace Consistency

instance : Inhabited Consistency := ⟨localQuorum⟩

/-- Every level, in the order of the protocol numbers. -/
def levels : List Consistency :=
  [any, one, two, three, quorum, all, localQuorum, eachQuorum, serial, localSerial, localOne]

theorem mem_levels (c : Consistency) : c ∈ levels := by cases c <;> decide

/-- The protocol number of a level. -/
def code : Consistency → UInt16
  | any => 0
  | one => 1
  | two => 2
  | three => 3
  | quorum => 4
  | all => 5
  | localQuorum => 6
  | eachQuorum => 7
  | serial => 8
  | localSerial => 9
  | localOne => 10

/-- The level of a protocol number. -/
def ofCode? (n : UInt16) : Except UnknownCode Consistency :=
  match levels.find? (·.code == n) with
  | some c => .ok c
  | none => .error ⟨"Consistency", n.toNat⟩

theorem ofCode?_code (c : Consistency) : ofCode? c.code = .ok c := by cases c <;> rfl

/-- The protocol name of a level. -/
def name : Consistency → String
  | any => "ANY"
  | one => "ONE"
  | two => "TWO"
  | three => "THREE"
  | quorum => "QUORUM"
  | all => "ALL"
  | localQuorum => "LOCAL_QUORUM"
  | eachQuorum => "EACH_QUORUM"
  | serial => "SERIAL"
  | localSerial => "LOCAL_SERIAL"
  | localOne => "LOCAL_ONE"

/-- The name of a level in running text. -/
def title : Consistency → String
  | any => "Any"
  | one => "One"
  | two => "Two"
  | three => "Three"
  | quorum => "Quorum"
  | all => "All"
  | localQuorum => "LocalQuorum"
  | eachQuorum => "EachQuorum"
  | serial => "Serial"
  | localSerial => "LocalSerial"
  | localOne => "LocalOne"

/-- The level of a title. -/
def ofTitle? (s : String) : Option Consistency := levels.find? (·.title == s)

theorem ofTitle?_title (c : Consistency) : ofTitle? c.title = some c := by cases c <;> rfl

theorem title_injective {c c' : Consistency} (h : c.title = c'.title) : c = c' := by
  have hread : ofTitle? c.title = ofTitle? c'.title := congrArg ofTitle? h
  rw [ofTitle?_title, ofTitle?_title] at hread
  exact Option.some.inj hread

/-- Whether a level is one of conditional writes. -/
def isSerial : Consistency → Bool
  | serial | localSerial => true
  | _ => false

/-- The order of two levels is that of their protocol numbers. -/
def compare (a b : Consistency) : Ordering := Ord.compare a.code.toNat b.code.toNat

/-- Whether a level does not come after another. -/
def le (a b : Consistency) : Bool := a.code.toNat ≤ b.code.toNat

/-- Levels in the order of their protocol numbers. -/
def sort (cs : List Consistency) : List Consistency := cs.mergeSort le

/-- The first of some levels in that order. -/
def lowest? (cs : List Consistency) : Option Consistency := (sort cs).head?

/-- The last of some levels in that order. -/
def highest? (cs : List Consistency) : Option Consistency := (sort cs).getLast?

/-- Each level of a list against the next one. -/
def comparisons : List Consistency → List Ordering
  | a :: b :: rest => a.compare b :: comparisons (b :: rest)
  | _ => []

end Consistency

end Reattempt
