import Mathlib
import Reattempt.Text.Blank
import Reattempt.Text.Letter

/-!
# Texts without the blanks at their ends

Trimming leaves the one text that has no blank at either end and differs from the
given text by blanks there. It keeps the case of letters, and no blank is a letter.

* `Text.Trims`: a text is another one without the blanks at its ends.
* `Text.trims_trim`, `Text.Trims.trim_eq`: there is exactly one such text.
* `Text.trim_pad`, `Text.lower_trim`: blanks around a text, and the case of its letters.
* `Text.ink`: the characters that are not blank.
-/

namespace Reattempt.Text

variable {s t before after : List Char}

/-- A text of blanks. -/
def Blank (s : List Char) : Prop := ∀ c ∈ s, isBlank c = true

/-- **A text without the blanks at its ends.** -/
structure Trims (s t : List Char) : Prop where
  split : ∃ before after, Blank before ∧ Blank after ∧ s = before ++ t ++ after
  head : ∀ c ∈ t.head?, isBlank c = false
  last : ∀ c ∈ t.getLast?, isBlank c = false

theorem Blank.reverse (h : Blank s) : Blank s.reverse := fun c hc => h c (List.mem_reverse.1 hc)

theorem Blank.append (hs : Blank s) (ht : Blank t) : Blank (s ++ t) := by
  intro c hc
  rcases List.mem_append.1 hc with hc | hc
  · exact hs c hc
  · exact ht c hc

theorem trimStart_append (h : Blank before) : trimStart (before ++ s) = trimStart s :=
  List.dropWhile_append_of_pos h

theorem trimStart_of_head (h : ∀ c ∈ s.head?, isBlank c = false) : trimStart s = s := by
  cases s with
  | nil => rfl
  | cons c s =>
    have hc : ¬ isBlank c = true := by rw [h c rfl]; nofun
    exact List.dropWhile_cons_of_neg hc

theorem head_trimStart (s : List Char) : ∀ c ∈ (trimStart s).head?, isBlank c = false := by
  intro c hc
  have hfirst := List.head?_dropWhile_not isBlank s
  rw [show (s.dropWhile isBlank).head? = some c from hc] at hfirst
  exact hfirst

/-- **Trimming removes the blanks at the ends.** -/
theorem trims_trim (s : List Char) : Trims s (trim s) where
  split := by
    have hend : trim s ++ (trimStart s).rtakeWhile isBlank = trimStart s :=
      List.rdropWhile_append_rtakeWhile
    have hstart : s.takeWhile isBlank ++ trimStart s = s := List.takeWhile_append_dropWhile
    refine ⟨s.takeWhile isBlank, (trimStart s).rtakeWhile isBlank,
      fun c hc => List.mem_takeWhile_imp hc, fun c hc => List.mem_rtakeWhile_imp hc, ?_⟩
    rw [List.append_assoc, hend, hstart]
  head := by
    intro c hc
    obtain ⟨rest, hrest⟩ : trim s <+: trimStart s := List.rdropWhile_prefix isBlank (trimStart s)
    refine head_trimStart s c ?_
    rw [← hrest, List.head?_append, hc]
    rfl
  last := by
    intro c hc
    rw [trim, List.getLast?_reverse] at hc
    exact head_trimStart _ c hc

/-- **Nothing else does.** -/
theorem Trims.trim_eq (h : Trims s t) : trim s = t := by
  obtain ⟨before, after, hbefore, hafter, rfl⟩ := h.split
  have hlast : ∀ c ∈ t.reverse.head?, isBlank c = false := by
    rw [List.head?_reverse]
    exact h.last
  rw [trim, List.append_assoc, trimStart_append hbefore]
  cases t with
  | nil =>
    have hnone : trimStart after = [] := List.dropWhile_eq_nil_iff.2 hafter
    rw [List.nil_append, hnone]
    rfl
  | cons c t =>
    have hstart : trimStart (c :: t ++ after) = c :: t ++ after := trimStart_of_head h.head
    rw [hstart, List.reverse_append, trimStart_append hafter.reverse, trimStart_of_head hlast,
      List.reverse_reverse]

/-- A text without blanks has none at its ends. -/
theorem trims_self (h : ∀ c ∈ s, isBlank c = false) : Trims s s where
  split := ⟨[], [], nofun, nofun, by rw [List.nil_append, List.append_nil]⟩
  head c hc := h c (List.mem_of_mem_head? hc)
  last c hc := h c (List.mem_of_getLast? hc)

/-- Blanks around a text go with those at its ends. -/
theorem Trims.pad (h : Trims s t) (hbefore : Blank before) (hafter : Blank after) :
    Trims (before ++ s ++ after) t := by
  obtain ⟨first, second, hfirst, hsecond, rfl⟩ := h.split
  refine ⟨⟨before ++ first, second ++ after, hbefore.append hfirst, hsecond.append hafter, ?_⟩,
    h.head, h.last⟩
  simp only [List.append_assoc]

theorem trim_pad (hbefore : Blank before) (hafter : Blank after) :
    trim (before ++ s ++ after) = trim s :=
  ((trims_trim s).pad hbefore hafter).trim_eq

theorem not_isBlank_of_isAlpha {c : Char} (h : c.isAlpha = true) : isBlank c = false := by
  have hblanks : ∀ b ∈ blanks, b.isAlpha = false := by simp [blanks]
  cases hc : isBlank c with
  | false => rfl
  | true =>
    rw [hblanks c (List.contains_iff_mem.1 hc)] at h
    cases h

/-- Letters are ASCII characters. -/
theorem toNat_lt_of_isAlpha {c : Char} (h : c.isAlpha = true) : c.toNat < 128 := by
  simp only [Char.isAlpha, Char.isUpper, Char.isLower, Bool.or_eq_true, Bool.and_eq_true,
    decide_eq_true_eq, UInt32.le_iff_toNat_le] at h
  have hupper : 'Z'.val.toNat = 90 := rfl
  have hlower : 'z'.val.toNat = 122 := rfl
  have hcode : c.toNat = c.val.toNat := rfl
  omega

/-- What is not a letter has no case. -/
theorem toLower_of_not_isAlpha {c : Char} (h : c.isAlpha = false) : c.toLower = c := by
  refine Char.toLower_eq_of_not_isUpper fun hupper => ?_
  rw [Char.isAlpha, hupper] at h
  cases h

theorem eq_of_toLower_eq {c d : Char} (hd : d.isAlpha = false) (h : c.toLower = d.toLower) :
    c = d := by
  have hc : c.isAlpha = false := by
    rw [← Char.isAlpha_toLower_eq_isAlpha, h, Char.isAlpha_toLower_eq_isAlpha, hd]
  rwa [toLower_of_not_isAlpha hc, toLower_of_not_isAlpha hd] at h

theorem isBlank_toLower (c : Char) : isBlank c.toLower = isBlank c := by
  cases h : c.isAlpha with
  | true =>
    have hlower : c.toLower.isAlpha = true := by rw [Char.isAlpha_toLower_eq_isAlpha, h]
    rw [not_isBlank_of_isAlpha h, not_isBlank_of_isAlpha hlower]
  | false => rw [toLower_of_not_isAlpha h]

theorem blank_lower_iff : Blank (lower s) ↔ Blank s := by
  simp [Blank, lower, isBlank_toLower]

/-- **The case of letters does not count for trimming.** -/
theorem Trims.lower (h : Trims s t) : Trims (lower s) (lower t) := by
  obtain ⟨before, after, hbefore, hafter, rfl⟩ := h.split
  refine ⟨⟨Text.lower before, Text.lower after, blank_lower_iff.2 hbefore,
    blank_lower_iff.2 hafter, by simp only [Text.lower, List.map_append]⟩, ?_, ?_⟩
  · intro c hc
    rw [Text.lower, List.head?_map] at hc
    obtain ⟨d, hd, rfl⟩ := Option.map_eq_some_iff.1 hc
    rw [isBlank_toLower]
    exact h.head d hd
  · intro c hc
    rw [Text.lower, List.getLast?_map] at hc
    obtain ⟨d, hd, rfl⟩ := Option.map_eq_some_iff.1 hc
    rw [isBlank_toLower]
    exact h.last d hd

theorem lower_trim (s : List Char) : lower (trim s) = trim (lower s) :=
  (trims_trim s).lower.trim_eq.symm

/-- The characters of a text that are not blank. -/
def ink (s : List Char) : List Char := s.filter fun c => !isBlank c

theorem ink_append (s t : List Char) : ink (s ++ t) = ink s ++ ink t := List.filter_append s t

theorem ink_eq_nil_iff : ink s = [] ↔ Blank s := by
  simp [ink, Blank, List.filter_eq_nil_iff]

/-- A text whose only blanks are those at its ends. -/
theorem Trims.ink_eq (h : Trims s t) (ht : ∀ c ∈ t, isBlank c = false) : ink s = t := by
  obtain ⟨before, after, hbefore, hafter, rfl⟩ := h.split
  have hkept : ink t = t := List.filter_eq_self.2 fun c hc => by rw [ht c hc]; rfl
  rw [ink_append, ink_append, ink_eq_nil_iff.2 hbefore, ink_eq_nil_iff.2 hafter, hkept,
    List.nil_append, List.append_nil]

end Reattempt.Text
