import DiceRoll.Proofs.Text.Numeral
import Mathlib

/-!
# Glyphs

The glyphs are the characters that readable formulas are spelled with once they are in lower case:
digits, signs, the letters d, e, m and r, and blanks. Lower-casing keeps each of them, and apart
from the capital letters of ASCII nothing else becomes one. Both facts are read off the table once,
range against range. So a text that is in lower case already and becomes a text of glyphs in lower
case is one.
-/

namespace DiceRoll.Text

/-- The code points of the glyphs. -/
def glyphRanges : List (Nat × Nat) :=
  [(0x2B, 0x2B), (0x2D, 0x2D), (0x30, 0x39), (0x64, 0x65), (0x6D, 0x6D), (0x72, 0x72)] ++
    blankRanges

/-- Whether formulas are spelled with a character. -/
def isGlyph (c : Char) : Bool :=
  inRanges glyphRanges c

theorem isGlyph_of_isBlank {c : Char} (h : isBlank c = true) : isGlyph c = true := by
  obtain ⟨range, hrange, hc⟩ := inRanges_eq_true_iff.mp h
  exact inRanges_eq_true_iff.mpr ⟨range, List.mem_append_right _ hrange, hc⟩

theorem isGlyph_of_isDigit {c : Char} (h : c.isDigit = true) : isGlyph c = true :=
  inRanges_eq_true_iff.mpr ⟨(0x30, 0x39), by simp [glyphRanges], Char.isDigit_iff_toNat.mp h⟩

/-! ### Glyphs in lower case -/

/-- No glyph has another lower-case form. -/
theorem lowerRanges_glyphs :
    (lowerRanges.all fun range => glyphRanges.all fun glyphs =>
      glyphs.2 < range.first || range.last < glyphs.1) = true := by
  decide +kernel

/-- Only the capital letters of ASCII are mapped to glyphs. -/
theorem lowerRanges_image_glyphs :
    (lowerRanges.all fun range => range.first == 0x41 || glyphRanges.all fun glyphs =>
      (glyphs.2 : Int) < range.first + range.offset ||
        range.last + range.offset < (glyphs.1 : Int)) = true := by
  decide +kernel

theorem lowerChar_of_isGlyph {c : Char} (h : isGlyph c = true) : lowerChar c = c := by
  have hnone : lowerRanges.find? (·.covers c) = none := by
    rw [List.find?_eq_none]
    intro range hrange
    obtain ⟨glyphs, hglyphs, hc⟩ := inRanges_eq_true_iff.mp h
    have hapart := List.all_eq_true.mp (List.all_eq_true.mp lowerRanges_glyphs range hrange)
      glyphs hglyphs
    simp only [Bool.or_eq_true, decide_eq_true_eq] at hapart
    simp only [LowerRange.covers, Bool.and_eq_true, decide_eq_true_eq]
    omega
  rw [lowerChar, hnone]

theorem isSettled_of_isGlyph {c : Char} (h : isGlyph c = true) : IsSettled c := by
  refine isSettled_of_lowerChar_eq (lowerChar_of_isGlyph h) ?_ ?_ <;>
    · rintro rfl
      revert h
      decide

/-- Whether a character is a capital letter of ASCII. -/
def isCapital (c : Char) : Bool :=
  0x41 ≤ c.toNat && c.toNat ≤ 0x5A

/-- A character whose lower-case form is a glyph is that glyph, or a capital letter of ASCII. -/
theorem lowerChar_eq_or_isCapital {c : Char} (h : isGlyph (lowerChar c) = true) :
    lowerChar c = c ∨ isCapital c = true := by
  rw [lowerChar] at h ⊢
  split at h
  · rename_i range hfind
    have hmem := List.mem_of_find?_eq_some hfind
    have hcovers := List.find?_some hfind
    simp only [LowerRange.covers, Bool.and_eq_true, decide_eq_true_eq] at hcovers
    have himage := List.all_eq_true.mp lowerRanges_image_glyphs range hmem
    simp only [Bool.or_eq_true, beq_iff_eq] at himage
    refine .inr ?_
    simp only [isCapital, Bool.and_eq_true, decide_eq_true_eq]
    rcases himage with hfirst | himage
    · rcases lowerRanges_ascii range hmem with hascii | hascii <;> omega
    · obtain ⟨glyphs, hglyphs, hc⟩ := inRanges_eq_true_iff.mp h
      have hapart := List.all_eq_true.mp himage glyphs hglyphs
      have hpos : ∀ glyphs ∈ glyphRanges, 0 < glyphs.1 := by decide
      have := hpos glyphs hglyphs
      simp only [Bool.or_eq_true, decide_eq_true_eq] at hapart
      simp only [Char.toNat_ofNat] at hc
      split at hc <;> omega
  · exact .inl rfl

/-! ### Texts in lower case -/

/-- No capital letter of ASCII is the lower-case form of a character. -/
theorem isCapital_lowerChar (c : Char) : isCapital (lowerChar c) = false := by
  rw [Bool.eq_false_iff, isCapital, Ne, Bool.and_eq_true, decide_eq_true_eq, decide_eq_true_eq,
    lowerChar]
  split
  · rename_i range hfind
    have himage := lowerRanges_image range (List.mem_of_find?_eq_some hfind)
    have hcovers := List.find?_some hfind
    simp only [LowerRange.covers, Bool.and_eq_true, decide_eq_true_eq] at hcovers
    rw [Char.toNat_ofNat]
    split <;> omega
  · rename_i hnone
    have hcapitals : LowerRange.mk 0x41 0x5A 1 32 ∈ lowerRanges := List.mem_cons_self
    have hcovers := List.find?_eq_none.mp hnone _ hcapitals
    simp only [LowerRange.covers, Nat.mod_one] at hcovers
    simpa using hcovers

/-- Lower-casing leaves no capital letter of ASCII. -/
theorem isCapital_of_mem_lowerFrom {afterCased : Bool} {s : Text} :
    ∀ c ∈ lowerFrom afterCased s, isCapital c = false := by
  induction s generalizing afterCased with
  | nil => simp [lowerFrom]
  | cons first rest ih =>
    rw [lowerFrom, List.forall_mem_append]
    refine ⟨?_, ih⟩
    rw [lowerBetween]
    split
    · simp [isCapital]
    · split
      · split <;> simp [isCapital]
      · simpa using isCapital_lowerChar first

/-- The characters that the capital sigma is lowered to are no glyphs. -/
theorem not_isGlyph_sigma : isGlyph '\u03C2' = false ∧ isGlyph '\u03C3' = false := by
  decide

/-- A character that is lowered to glyphs alone is a glyph, unless it is a capital letter. -/
theorem isGlyph_of_lowerBetween {afterCased : Bool} {c : Char} {rest : Text}
    (h : ∀ other ∈ lowerBetween afterCased c rest, isGlyph other = true)
    (hcapital : isCapital c = false) : isGlyph c = true := by
  rw [lowerBetween] at h
  split at h
  · have hi : isGlyph 'i' = false := by decide
    simp [hi] at h
  · split at h
    · split at h <;> simp [not_isGlyph_sigma] at h
    · have hglyph : isGlyph (lowerChar c) = true := by simpa using h
      rcases lowerChar_eq_or_isCapital hglyph with heq | hc
      · rwa [heq] at hglyph
      · simp [hc] at hcapital

/-- A text without capital letters whose lower-case form holds glyphs alone holds glyphs alone. -/
theorem isGlyph_of_lowerFrom {afterCased : Bool} {s : Text}
    (h : ∀ c ∈ lowerFrom afterCased s, isGlyph c = true) (hs : ∀ c ∈ s, isCapital c = false) :
    ∀ c ∈ s, isGlyph c = true := by
  induction s generalizing afterCased with
  | nil => simp
  | cons first rest ih =>
    rw [lowerFrom, List.forall_mem_append] at h
    obtain ⟨hfirst, hrest⟩ := List.forall_mem_cons.mp hs
    exact List.forall_mem_cons.mpr ⟨isGlyph_of_lowerBetween h.1 hfirst, ih h.2 hrest⟩

/-- A text whose lower-case form holds glyphs alone holds no capital sigma. -/
theorem sigma_not_mem_of_lowerFrom {afterCased : Bool} {s : Text}
    (h : ∀ c ∈ lowerFrom afterCased s, isGlyph c = true) : '\u03A3' ∉ s := by
  induction s generalizing afterCased with
  | nil => simp
  | cons first rest ih =>
    rw [lowerFrom, List.forall_mem_append] at h
    rw [List.mem_cons, not_or]
    refine ⟨?_, ih h.2⟩
    rintro rfl
    have hsigma := h.1
    rw [lowerBetween, if_neg (by decide), if_pos rfl] at hsigma
    split at hsigma <;> simp [not_isGlyph_sigma] at hsigma

end DiceRoll.Text
