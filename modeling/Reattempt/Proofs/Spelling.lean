import Reattempt.Consistency.Reading
import Reattempt.Proofs.Naming
import Reattempt.Proofs.Trimming

/-!
# How levels are spelled

A free text is read as a level exactly if it is the name of the level, up to blanks
at its ends and the case of its letters. The names are apart enough for this: up to
case no two of them agree, and where the name of a level stands in that of another
one it ends it. A document has to choose a level by the name itself, and a serial
level is chosen in the same way.

* `Consistency.SpelledBy`: the texts that spell a level.
* `Consistency.name_occurs`: where names stand in names.
* `Consistency.parse?_eq_ok_iff`, `Consistency.find?_eq_some_iff`: a level is read
  from the texts that spell it, in whatever order the levels are tried.
* `Consistency.screamingSnake_title`: a title written as a constant is the name.
* `Consistency.ReadsText`, `Consistency.ReadsDocuments`: reading levels.
* `levels_by_name`: both readings.
-/

namespace Reattempt

open Text

namespace Consistency

/-- **A text that spells a level**: without the blanks at its ends it is the name of the level, up
to the case of its letters. -/
def SpelledBy (c : Consistency) (s : String) : Prop :=
  ∃ t, Trims s.toList t ∧ lower t = lower c.name.toList

/-- The levels whose names end the names of others, each with the other one. -/
def endings : List (Consistency × Consistency) :=
  [(one, localOne), (quorum, localQuorum), (quorum, eachQuorum), (serial, localSerial)]

/-! ### The names -/

theorem mem_name (c : Consistency) : ∀ x ∈ c.name.toList, x.isAlpha = true ∨ x = '_' := by
  have hall : (c.name.toList.all fun x => x.isAlpha || x == '_') = true := by cases c <;> rfl
  simpa using hall

theorem isBlank_of_mem_name (c : Consistency) : ∀ x ∈ c.name.toList, isBlank x = false := by
  intro x hx
  rcases c.mem_name x hx with halpha | rfl
  · exact not_isBlank_of_isAlpha halpha
  · decide

theorem eq_of_lower_name_eq {c d : Consistency}
    (h : lower c.name.toList = lower d.name.toList) : c = d := by
  have hlevels : ∀ a ∈ levels, ∀ b ∈ levels,
      lower a.name.toList = lower b.name.toList → a = b := by
    decide +kernel
  exact hlevels c (mem_levels c) d (mem_levels d) h

theorem eq_of_name_eq {c d : Consistency} (h : c.name = d.name) : c = d :=
  eq_of_lower_name_eq (by rw [h])

/-- **Where a name stands in a name**: it ends it, and unless it is all of it, the levels are among
the `endings`. -/
theorem name_occurs {c d : Consistency} {before after : List Char}
    (h : lower d.name.toList = before ++ lower c.name.toList ++ after) :
    after = [] ∧ (before = [] ∧ c = d ∨ (c, d) ∈ endings) := by
  have hlevels : ∀ a ∈ levels, ∀ b ∈ levels, ∀ i ∈ List.range (b.name.toList.length + 1),
      lower a.name.toList <+: (lower b.name.toList).drop i →
        i + a.name.toList.length = b.name.toList.length ∧ (i = 0 ∧ a = b ∨ (a, b) ∈ endings) := by
    decide +kernel
  have hlength : d.name.toList.length =
      before.length + c.name.toList.length + after.length := by
    simpa [lower, Nat.add_assoc] using congrArg List.length h
  have hdrop : (lower d.name.toList).drop before.length = lower c.name.toList ++ after := by
    rw [h, List.append_assoc, List.drop_left]
  obtain ⟨hends, hwhole⟩ := hlevels c (mem_levels c) d (mem_levels d) before.length
    (List.mem_range.2 (by omega)) ⟨after, hdrop.symm⟩
  refine ⟨List.eq_nil_of_length_eq_zero (by omega), hwhole.imp_left ?_⟩
  rintro ⟨hnone, heq⟩
  exact ⟨List.eq_nil_of_length_eq_zero hnone, heq⟩

/-! ### The texts that spell a level -/

variable {c d : Consistency} {s : String}

theorem spelledBy_iff : c.SpelledBy s ↔ lower (trim s.toList) = lower c.name.toList := by
  constructor
  · rintro ⟨t, htrims, ht⟩
    rw [htrims.trim_eq, ht]
  · intro h
    exact ⟨_, trims_trim _, h⟩

/-- The case of letters does not count for spelling. -/
theorem spelledBy_congr {t : String} (h : lower s.toList = lower t.toList) :
    c.SpelledBy s ↔ c.SpelledBy t := by
  rw [spelledBy_iff, spelledBy_iff, lower_trim, lower_trim, h]

/-- Blanks at the ends do not count for spelling. -/
theorem spelledBy_pad {before after : String} (hbefore : Blank before.toList)
    (hafter : Blank after.toList) : c.SpelledBy (before ++ s ++ after) ↔ c.SpelledBy s := by
  rw [spelledBy_iff, spelledBy_iff, String.toList_append, String.toList_append,
    trim_pad hbefore hafter]

theorem SpelledBy.unique (hc : c.SpelledBy s) (hd : d.SpelledBy s) : c = d :=
  eq_of_lower_name_eq ((spelledBy_iff.1 hc).symm.trans (spelledBy_iff.1 hd))

/-- Between the blanks at its ends a spelling has as many characters as the name, all of them ASCII
letters or underscores. -/
theorem SpelledBy.plain (h : c.SpelledBy s) {t : List Char} (ht : Trims s.toList t) :
    t.length = c.name.toList.length ∧
      ∀ x ∈ t, isBlank x = false ∧ x.toNat < 128 ∧ (x.isAlpha = true ∨ x = '_') := by
  rw [spelledBy_iff, ht.trim_eq] at h
  refine ⟨by simpa [lower] using congrArg List.length h, fun x hx => ?_⟩
  have hmem : x.toLower ∈ lower c.name.toList := h ▸ List.mem_map_of_mem hx
  obtain ⟨y, hy, hcase⟩ := List.mem_map.1 hmem
  rcases c.mem_name y hy with halpha | rfl
  · rw [← Char.isAlpha_toLower_eq_isAlpha, hcase, Char.isAlpha_toLower_eq_isAlpha] at halpha
    exact ⟨not_isBlank_of_isAlpha halpha, toNat_lt_of_isAlpha halpha, .inl halpha⟩
  · obtain rfl : x = '_' := eq_of_toLower_eq (by decide) hcase.symm
    exact ⟨by decide, by decide, .inr rfl⟩

/-- Up to case, all the ink of a spelling is the name. -/
theorem SpelledBy.lower_ink (h : c.SpelledBy s) :
    lower (ink s.toList) = lower c.name.toList := by
  have htrims := trims_trim s.toList
  have hkept : ∀ x ∈ trim s.toList, isBlank x = false := fun x hx => ((h.plain htrims).2 x hx).1
  rw [htrims.ink_eq hkept]
  exact spelledBy_iff.1 h

/-- **Nothing but blanks can be added to a spelling**, unless this makes it that of a level whose
name is longer. -/
theorem SpelledBy.extend {before after : String} (h : c.SpelledBy s)
    (hd : d.SpelledBy (before ++ s ++ after)) :
    Blank after.toList ∧ (Blank before.toList ∧ c = d ∨ (c, d) ∈ endings) := by
  have hink := hd.lower_ink
  rw [String.toList_append, String.toList_append, ink_append, ink_append, lower, List.map_append,
    List.map_append] at hink
  have hname : lower d.name.toList =
      lower (ink before.toList) ++ lower c.name.toList ++ lower (ink after.toList) := by
    rw [← hink, ← h.lower_ink]
    rfl
  obtain ⟨hafter, hbefore⟩ := name_occurs hname
  have hblank : ∀ t : List Char, lower (ink t) = [] → Blank t := fun t ht =>
    ink_eq_nil_iff.1 (List.map_eq_nil_iff.1 ht)
  refine ⟨hblank _ hafter, hbefore.imp_left ?_⟩
  rintro ⟨hnone, heq⟩
  exact ⟨hblank _ hnone, heq⟩

/-! ### Reading -/

/-- **A level is found among all of them in whatever order they are tried.** -/
theorem find?_eq_some_iff {order : List Consistency} (hall : ∀ c, c ∈ order)
    {test : Consistency → Bool} (htest : ∀ c, test c = true ↔ c.SpelledBy s) :
    order.find? test = some c ↔ c.SpelledBy s := by
  rw [← htest]
  exact find?_eq_some_iff_of_unique (hall c) fun b _ hb hc =>
    ((htest b).1 hb).unique ((htest c).1 hc)

/-- **A level is read from the texts that spell it.** -/
theorem parse?_eq_ok_iff : parse? s = .ok c ↔ c.SpelledBy s := by
  have htest : ∀ c : Consistency,
      sameLetters c.name.toList (trim s.toList) = true ↔ c.SpelledBy s := by
    intro c
    rw [spelledBy_iff, sameLetters, beq_iff_eq, eq_comm]
  rw [← find?_eq_some_iff mem_levels htest, parse?]
  cases levels.find? fun c => sameLetters c.name.toList (trim s.toList) with
  | none => simp
  | some d => simp

/-- A text that spells no level is given back as it is. -/
theorem parse?_eq_error_iff {e : UnknownLevel} :
    parse? s = .error e ↔ e = ⟨s⟩ ∧ ∀ c : Consistency, ¬ c.SpelledBy s := by
  constructor
  · intro h
    refine ⟨?_, fun c hc => ?_⟩
    · unfold parse? at h
      split at h <;> cases h
      rfl
    · rw [parse?_eq_ok_iff.2 hc] at h
      cases h
  · rintro ⟨rfl, hnone⟩
    unfold parse?
    split
    case h_1 c hfind =>
      have hok : parse? s = .ok c := by rw [parse?, hfind]
      exact absurd (parse?_eq_ok_iff.1 hok) (hnone c)
    case h_2 => rfl

example : parse? "\u3000local_Serial\n" = .ok .localSerial ∧
    parse? "LOCAL SERIAL " = .error ⟨"LOCAL SERIAL "⟩ := by decide +kernel

theorem toOption_parse?_eq_some_iff : (parse? s).toOption = some c ↔ c.SpelledBy s := by
  rw [← parse?_eq_ok_iff]
  cases parse? s with
  | ok d => simp [Except.toOption]
  | error e => simp [Except.toOption]

/-- Texts that spell the same level are read as the same. -/
theorem toOption_parse?_congr {t : String} (h : ∀ c : Consistency, c.SpelledBy s ↔ c.SpelledBy t) :
    (parse? s).toOption = (parse? t).toOption := by
  ext c
  rw [toOption_parse?_eq_some_iff, toOption_parse?_eq_some_iff, h]

/-- **Reading levels from free text.** -/
structure ReadsText (read : String → Except UnknownLevel Consistency) : Prop where
  ok_iff : ∀ s c, read s = .ok c ↔ c.SpelledBy s
  /-- A text that spells no level is given back as it is. -/
  error_iff : ∀ s e, read s = .error e ↔ e = ⟨s⟩ ∧ ∀ c : Consistency, ¬ c.SpelledBy s
  unique : ∀ s (c d : Consistency), c.SpelledBy s → d.SpelledBy s → c = d
  /-- The levels may be tried in any order, with any test for spelling. -/
  found : ∀ s (order : List Consistency) (test : Consistency → Bool), (∀ c, c ∈ order) →
    (∀ c, test c = true ↔ c.SpelledBy s) → order.find? test = (read s).toOption
  /-- The case of letters does not count, -/
  recased : ∀ s t : String, lower s.toList = lower t.toList →
    (read s).toOption = (read t).toOption
  /-- nor do blanks at the ends. -/
  padded : ∀ before s after : String, Blank before.toList → Blank after.toList →
    (read (before ++ s ++ after)).toOption = (read s).toOption
  /-- Between them there are only ASCII letters and underscores, as many as in the name, -/
  plain : ∀ s c t, read s = .ok c → Trims s.toList t →
    t.length = c.name.toList.length ∧
      ∀ x ∈ t, isBlank x = false ∧ x.toNat < 128 ∧ (x.isAlpha = true ∨ x = '_')
  /-- and nothing but blanks can be added, unless this makes it the name of another level. -/
  extended : ∀ (before s after : String) c d, read s = .ok c → read (before ++ s ++ after) = .ok d →
    Blank after.toList ∧ (Blank before.toList ∧ c = d ∨ (c, d) ∈ endings)

theorem readsText_parse? : ReadsText parse? where
  ok_iff _ _ := parse?_eq_ok_iff
  error_iff _ _ := parse?_eq_error_iff
  unique _ _ _ hc hd := hc.unique hd
  found s order test hall htest := by
    ext c
    rw [find?_eq_some_iff hall htest, toOption_parse?_eq_some_iff]
  recased _ _ h := toOption_parse?_congr fun _ => spelledBy_congr h
  padded _ _ _ hbefore hafter := toOption_parse?_congr fun _ => spelledBy_pad hbefore hafter
  plain _ _ _ h htrims := (parse?_eq_ok_iff.1 h).plain htrims
  extended _ _ _ _ _ hc hd := (parse?_eq_ok_iff.1 hc).extend (parse?_eq_ok_iff.1 hd)

/-! ### Documents -/

/-- **A title written as a constant is the name.** -/
theorem screamingSnake_title (c : Consistency) : screamingSnake c.title = c.name := by
  cases c <;> rfl

/-- The name of a level spells it. -/
theorem spelledBy_name (c : Consistency) : c.SpelledBy c.name :=
  ⟨_, trims_self c.isBlank_of_mem_name, rfl⟩

end Consistency

/-- A document that chooses a name is the name itself or an object of one empty field. -/
theorem Document.choice?_eq_some_iff {d : Document} {s : String} :
    d.choice? = some s ↔ d = .text s ∨ d = .object [(s, .null)] := by
  constructor
  · intro h
    unfold choice? at h
    split at h <;> cases h
    · exact .inl rfl
    · exact .inr rfl
  · rintro (rfl | rfl) <;> rfl

theorem SerialConsistency.level_injective {s t : SerialConsistency} (h : s.level = t.level) :
    s = t := by
  have hback := congrArg ofLevel? h
  rw [ofLevel?_level, ofLevel?_level] at hback
  exact Except.ok.inj hback

/-- The levels of serial ones are those of conditional writes. -/
theorem SerialConsistency.exists_level_iff {c : Consistency} :
    (∃ s : SerialConsistency, s.level = c) ↔ c.isSerial = true := by
  constructor
  · rintro ⟨s, rfl⟩
    cases s <;> rfl
  · intro h
    cases c with
    | serial => exact ⟨.serial, rfl⟩
    | localSerial => exact ⟨.localSerial, rfl⟩
    | _ => cases h

namespace Consistency

variable {d : Document} {c : Consistency}

/-- **A level is chosen by its name.** -/
theorem ofDocument?_eq_some_iff : ofDocument? d = some c ↔ d.choice? = some c.name := by
  have hunique : ∀ b ∈ levels, screamingSnake b.title = screamingSnake c.title → b = c := by
    intro b _ hkey
    rw [screamingSnake_title, screamingSnake_title] at hkey
    exact eq_of_name_eq hkey
  rw [ofDocument?, Option.bind_eq_some_iff]
  simp only [find?_key_eq_some_iff (mem_levels c) hunique, exists_eq_right']
  rw [screamingSnake_title]

/-- **A serial level is chosen by the name of its general level.** -/
theorem ofDocument?_serial_eq_some_iff {s : SerialConsistency} :
    SerialConsistency.ofDocument? d = some s ↔ ofDocument? d = some s.level := by
  have hmem : s ∈ SerialConsistency.levels := by cases s <;> decide
  have htitle : ∀ b : SerialConsistency, screamingSnake b.title = b.level.name := fun b =>
    screamingSnake_title b.level
  have hunique : ∀ b ∈ SerialConsistency.levels,
      screamingSnake b.title = screamingSnake s.title → b = s := by
    intro b _ hkey
    rw [htitle, htitle] at hkey
    exact SerialConsistency.level_injective (eq_of_name_eq hkey)
  rw [ofDocument?_eq_some_iff, SerialConsistency.ofDocument?, Option.bind_eq_some_iff]
  simp only [find?_key_eq_some_iff hmem hunique, exists_eq_right']
  rw [htitle]

/-- **Reading levels, and serial ones, from documents.** -/
structure ReadsDocuments (read : Document → Option Consistency)
    (serial : Document → Option SerialConsistency) : Prop where
  /-- A document chooses a level by its name, as a text or as the key of an empty field. -/
  some_iff : ∀ d c, read d = some c ↔ d = .text c.name ∨ d = .object [(c.name, .null)]
  /-- This name is read from free text as the same level. -/
  parsed : ∀ d c, read d = some c →
    ∃ s, (d = .text s ∨ d = .object [(s, .null)]) ∧ parse? s = .ok c
  /-- A serial level is chosen as its general level is, -/
  serial_iff : ∀ d s, serial d = some s ↔ read d = some s.level
  /-- and exactly where this level is serial. -/
  serial_isSome_iff : ∀ d, (∃ s, serial d = some s) ↔ ∃ c, read d = some c ∧ c.isSerial = true

theorem readsDocuments_ofDocument? : ReadsDocuments ofDocument? SerialConsistency.ofDocument? where
  some_iff d c := ofDocument?_eq_some_iff.trans Document.choice?_eq_some_iff
  parsed d c h := by
    refine ⟨c.name, ?_, parse?_eq_ok_iff.2 c.spelledBy_name⟩
    exact Document.choice?_eq_some_iff.1 (ofDocument?_eq_some_iff.1 h)
  serial_iff _ _ := ofDocument?_serial_eq_some_iff
  serial_isSome_iff d := by
    constructor
    · rintro ⟨s, hs⟩
      have hserial : s.level.isSerial = true := SerialConsistency.exists_level_iff.1 ⟨s, rfl⟩
      exact ⟨s.level, ofDocument?_serial_eq_some_iff.1 hs, hserial⟩
    · rintro ⟨c, hc, hserial⟩
      obtain ⟨s, rfl⟩ := SerialConsistency.exists_level_iff.2 hserial
      exact ⟨s, ofDocument?_serial_eq_some_iff.2 hc⟩

end Consistency

/-- **Levels go by their names.** A free text is read as a level exactly if it spells it, and given
back unread otherwise. A document chooses a level exactly by its name, which is also read from free
text, and a serial level in the same way. -/
theorem levels_by_name :
    Consistency.ReadsText Consistency.parse? ∧
    Consistency.ReadsDocuments Consistency.ofDocument? SerialConsistency.ofDocument? :=
  ⟨Consistency.readsText_parse?, Consistency.readsDocuments_ofDocument?⟩

end Reattempt
