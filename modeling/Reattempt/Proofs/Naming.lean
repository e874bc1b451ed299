import Mathlib.Logic.Function.Basic
import Reattempt.Policy.Stock

/-!
# Names of write types

Every text is the name of a write type, and no two texts are the name of the same
one: a type gives back the text that it was read from. The types that the protocol
defines are read from their exact names. A type that bears such a name without
being the defined one can be written down, but is never read, and the stock
policies do not take it for the defined one.

* `find?_eq_some_iff_of_unique`, `find?_key_eq_some_iff`: searches whose outcome does
  not depend on the order.
* `WriteType.names`: the names that the protocol defines.
* `WriteType.ofName_eq_iff`, `WriteType.ofName_of_not_mem`: what a text is read as.
* `WriteType.ofName_name_iff`: the types that their names tell.
* `WriteType.NamesBack`, `Stock.GoesByName`: reading and naming, and policies that
  go by names.
* `writeTypes_by_name`: both of the write types and of the retrying policies.
-/

namespace Reattempt

/-- A search finds the only member that passes the test, wherever it stands. -/
theorem find?_eq_some_iff_of_unique {α : Type} {p : α → Bool} {l : List α} {a : α} (ha : a ∈ l)
    (unique : ∀ b ∈ l, p b = true → p a = true → b = a) : l.find? p = some a ↔ p a = true := by
  refine ⟨List.find?_some, fun hp => ?_⟩
  cases hfind : l.find? p with
  | none => exact absurd hp (List.find?_eq_none.1 hfind a ha)
  | some b => rw [unique b (List.mem_of_find?_eq_some hfind) (List.find?_some hfind) hp]

/-- A search by a key finds the only member that has it. -/
theorem find?_key_eq_some_iff {α : Type} {key : α → String} {l : List α} {a : α} (ha : a ∈ l)
    (unique : ∀ b ∈ l, key b = key a → b = a) {s : String} :
    l.find? (key · == s) = some a ↔ key a = s := by
  rw [find?_eq_some_iff_of_unique ha, beq_iff_eq]
  intro b hb hbs has
  exact unique b hb ((eq_of_beq hbs).trans (eq_of_beq has).symm)

namespace WriteType

/-- The names that the protocol defines. -/
def names : List String :=
  ["SIMPLE", "BATCH", "UNLOGGED_BATCH", "COUNTER", "BATCH_LOG", "CAS", "VIEW", "CDC"]

theorem mem_names_iff {s : String} : s ∈ names ↔ ∃ w ∈ defined, w.name = s := by
  have hnames : names = defined.map name := rfl
  rw [hnames, List.mem_map]

theorem mem_defined_or_other (w : WriteType) : w ∈ defined ∨ ∃ n, w = other n := by
  cases w with
  | other n => exact .inr ⟨n, rfl⟩
  | _ => exact .inl (by decide)

theorem other_not_mem_defined (n : String) : other n ∉ defined := by
  simp [defined]

/-- No two defined types share a name. -/
theorem eq_of_name_eq : ∀ w ∈ defined, ∀ v ∈ defined, w.name = v.name → w = v := by
  decide

/-- A text that names no defined type is kept. -/
theorem ofName_of_not_mem {s : String} (h : s ∉ names) : ofName s = other s := by
  have hnone : defined.find? (·.name == s) = none :=
    List.find?_eq_none.2 fun w hw hname => h (mem_names_iff.2 ⟨w, hw, eq_of_beq hname⟩)
  rw [ofName, hnone, Option.getD_none]

/-- **A defined type is read from its name**, and from no other text. -/
theorem ofName_eq_iff {w : WriteType} (hw : w ∈ defined) {s : String} :
    ofName s = w ↔ s = w.name := by
  constructor
  · rintro rfl
    exact (name_ofName s).symm
  · rintro rfl
    have hfind : defined.find? (·.name == w.name) = some w :=
      (find?_key_eq_some_iff hw fun v hv hname => eq_of_name_eq v hv w hw hname).2 rfl
    rw [ofName, hfind, Option.getD_some]

/-- **The types that their names tell** are all but those that bear a defined name without being
defined. -/
theorem ofName_name_iff (w : WriteType) : ofName w.name = w ↔ ¬ ∃ n ∈ names, w = other n := by
  rcases w.mem_defined_or_other with hw | ⟨n, rfl⟩
  · refine iff_of_true ((ofName_eq_iff hw).2 rfl) ?_
    rintro ⟨n, -, rfl⟩
    exact other_not_mem_defined n hw
  · constructor
    · rintro h ⟨m, hm, hother⟩
      cases hother
      obtain ⟨v, hv, rfl⟩ := mem_names_iff.1 hm
      have hread : other v.name = v := h.symm.trans ((ofName_eq_iff hv).2 rfl)
      rw [← hread] at hv
      exact other_not_mem_defined _ hv
    · intro h
      exact ofName_of_not_mem fun hn => h ⟨n, hn, rfl⟩

/-- **Types that are read from names and give them back.** -/
structure NamesBack (read : String → WriteType) : Prop where
  name_read : ∀ s, (read s).name = s
  injective : Function.Injective read
  /-- A defined type is read from its name to the letter. -/
  defined_iff : ∀ w ∈ defined, ∀ s, read s = w ↔ s = w.name
  other_of_not_mem : ∀ s, s ∉ names → read s = other s
  /-- Only a type that bears a defined name without being defined is not read back. -/
  read_name_iff : ∀ w : WriteType, read w.name = w ↔ ¬ ∃ n ∈ names, w = other n
  /-- Such a type is not the defined one. -/
  other_ne : ∀ n ∈ names, ∀ w ∈ defined, other n ≠ w

theorem namesBack_ofName : NamesBack ofName where
  name_read := name_ofName
  injective := Function.LeftInverse.injective name_ofName
  defined_iff _ hw _ := ofName_eq_iff hw
  other_of_not_mem _ hs := ofName_of_not_mem hs
  read_name_iff := ofName_name_iff
  other_ne n _ _ hw h := other_not_mem_defined n (h ▸ hw)

end WriteType

namespace Stock

/-- What the standard policy answers to the timeout of a write, by the name of its type. -/
def standardWrite (name : String) (_ : Consistency) (retryCount : Nat) (_ : Int) : Decision :=
  if retryCount = 0 ∧ name = "BATCH_LOG" then .retrySameTarget none else .rethrow

/-- What the downgrading policy answers to it, with so many acknowledgements at a level. -/
def downgradingWrite (name : String) (level : Consistency) (retryCount : Nat) (received : Int) :
    Decision :=
  if 0 < retryCount then .rethrow
  else if name = "SIMPLE" ∨ name = "BATCH" then if 0 < received then .ignore else .rethrow
  else if name = "UNLOGGED_BATCH" then lowered received level
  else if name = "BATCH_LOG" then .retrySameTarget none
  else .rethrow

/-- **A policy that goes by the name of the write type.** -/
structure GoesByName (policy : Failure → Decision)
    (table : String → Consistency → Nat → Int → Decision) : Prop where
  /-- The type that was read from a name is answered as the table says of this name. -/
  read : ∀ query level retryCount name required received,
    policy ⟨query, level, retryCount, .writeTimeout (.ofName name) required received⟩ =
      table name level retryCount received
  /-- A type that bears a defined name without being defined leads nowhere. -/
  unread : ∀ query level retryCount required received, ∀ name ∈ WriteType.names,
    policy ⟨query, level, retryCount, .writeTimeout (.other name) required received⟩ = .rethrow

theorem goesByName_standard : GoesByName standard standardWrite where
  read query level retryCount name required received := by
    have hname : WriteType.ofName name = .batchLog ↔ name = "BATCH_LOG" :=
      WriteType.ofName_eq_iff (by decide)
    simp only [standard, standardWrite, hname]
  unread query level retryCount required received name _ := by
    simp [standard]

theorem goesByName_downgrading : GoesByName downgrading downgradingWrite where
  read query level retryCount name required received := by
    by_cases hdefined : name ∈ WriteType.names
    · obtain ⟨w, hw, rfl⟩ := WriteType.mem_names_iff.1 hdefined
      rw [(WriteType.ofName_eq_iff hw).2 rfl]
      cases w with
      | other n => exact absurd hw (WriteType.other_not_mem_defined n)
      | _ => simp [downgrading, downgradingWrite, WriteType.name]
    · have hne : ∀ w ∈ WriteType.defined, name ≠ w.name := fun w hw hname =>
        hdefined (WriteType.mem_names_iff.2 ⟨w, hw, hname.symm⟩)
      have hsimple : name ≠ "SIMPLE" := hne .simple (by decide)
      have hbatch : name ≠ "BATCH" := hne .batch (by decide)
      have hunlogged : name ≠ "UNLOGGED_BATCH" := hne .unloggedBatch (by decide)
      have hlog : name ≠ "BATCH_LOG" := hne .batchLog (by decide)
      rw [WriteType.ofName_of_not_mem hdefined]
      simp [downgrading, downgradingWrite, hsimple, hbatch, hunlogged, hlog]
  unread query level retryCount required received name _ := by
    simp [downgrading]

end Stock

/-- **Write types go by their names.** Every text is read as a write type that gives it back, and a
defined type is read from its exact name only. The standard and the downgrading policy answer the
timeout of a write by the name from which its type was read. A type that bears a defined name
without being defined is never read, is none of the defined ones, and is answered by giving up. -/
theorem writeTypes_by_name :
    WriteType.NamesBack WriteType.ofName ∧
    Stock.GoesByName Stock.standard Stock.standardWrite ∧
    Stock.GoesByName Stock.downgrading Stock.downgradingWrite :=
  ⟨WriteType.namesBack_ofName, Stock.goesByName_standard, Stock.goesByName_downgrading⟩

end Reattempt
