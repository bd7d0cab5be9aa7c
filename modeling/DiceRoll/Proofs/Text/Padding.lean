import DiceRoll.Proofs.Sequence
import DiceRoll.Proofs.Text.Glyph
import Mathlib

/-!
# Literals between blanks

Blanks around a literal do not change what it reads as, and nothing but blanks is no literal. What
reads as a literal is made of glyphs.
-/

namespace DiceRoll.Text

/-! ### Blanks at either end -/

/-- Blanks alone. -/
def IsBlanks (s : Text) : Prop :=
  ∀ c ∈ s, isBlank c = true

instance (s : Text) : Decidable (IsBlanks s) :=
  decidable_of_iff (s.all isBlank = true) List.all_eq_true

@[simp] theorem isBlanks_nil : IsBlanks [] := by simp [IsBlanks]

theorem IsBlanks.isGlyph {s : Text} (h : IsBlanks s) : ∀ c ∈ s, isGlyph c = true := fun c hc =>
  isGlyph_of_isBlank (h c hc)

/-- Blanks in front of glyphs are glyphs all the same. -/
theorem IsBlanks.isGlyph_append {before s : Text} (h : IsBlanks before)
    (hs : ∀ c ∈ s, Text.isGlyph c = true) : ∀ c ∈ before ++ s, Text.isGlyph c = true :=
  List.forall_mem_append.mpr ⟨h.isGlyph, hs⟩

/-- A character that is no blank is not among blanks. -/
theorem IsBlanks.ne {s : Text} (h : IsBlanks s) {c other : Char} (hc : c ∈ s)
    (hother : isBlank other = false) : c ≠ other := by
  rintro rfl
  simp [h c hc] at hother

theorem trimEnd_append {s after : Text} (h : IsBlanks after) :
    trimEnd (s ++ after) = trimEnd s := by
  have hreverse : ∀ c ∈ after.reverse, isBlank c = true := fun c hc => h c (List.mem_reverse.mp hc)
  rw [trimEnd, List.reverse_append, List.dropWhile_append_of_pos hreverse, trimEnd]

/-- Blanks in front of a literal do not change it. -/
theorem literal?_blanks_append {before s : Text} (h : IsBlanks before) :
    literal? (before ++ s) = literal? s := by
  have htrim : trim (before ++ s) = trim s := by
    rw [trim, List.dropWhile_append_of_pos h, trim]
  rw [literal?, htrim, literal?]

/-- Blanks behind a literal do not change it. -/
theorem literal?_append_blanks {s after : Text} (h : IsBlanks after) :
    literal? (s ++ after) = literal? s := by
  have htrim : trim (s ++ after) = trim s := by
    rw [trim, List.dropWhile_append, trim]
    -- Behind nothing but blanks the blanks at the end go with those at the start.
    split
    · rename_i hempty
      rw [List.isEmpty_iff] at hempty
      rw [hempty, List.dropWhile_eq_nil_iff.mpr h]
    · exact trimEnd_append h
  rw [literal?, htrim, literal?]

/-- Nothing is no literal. -/
@[simp] theorem literal?_nil : literal? [] = none := rfl

/-- Blanks alone are no literal. -/
theorem literal?_of_isBlanks {s : Text} (h : IsBlanks s) : literal? s = none := by
  have hnil := @literal?_blanks_append s [] h
  rwa [List.append_nil, literal?_nil] at hnil

/-- A text with blanks put behind it. -/
def Padded (s padded : Text) : Prop :=
  ∃ after, IsBlanks after ∧ padded = s ++ after

theorem Padded.refl (s : Text) : Padded s s :=
  ⟨[], isBlanks_nil, (List.append_nil s).symm⟩

theorem Padded.cons {s padded : Text} (h : Padded s padded) (c : Char) :
    Padded (c :: s) (c :: padded) := by
  obtain ⟨after, hafter, rfl⟩ := h
  exact ⟨after, hafter, rfl⟩

/-- Padded texts read as the same literals. -/
theorem mapM_literal?_eq {texts padded : List Text} (h : List.Forall₂ Padded texts padded) :
    padded.mapM literal? = texts.mapM literal? := by
  induction h with
  | nil => rfl
  | cons hfirst _ ih =>
    obtain ⟨after, hafter, rfl⟩ := hfirst
    rw [List.mapM_cons, List.mapM_cons, literal?_append_blanks hafter, ih]

/-! ### The characters of literals -/

/-- A character of a text is a blank or comes after the blanks at the start. -/
theorem mem_dropWhile_or_isBlank {s : Text} {c : Char} (h : c ∈ s) :
    c ∈ s.dropWhile isBlank ∨ isBlank c = true := by
  rw [← List.takeWhile_append_dropWhile (p := isBlank) (l := s), List.mem_append] at h
  exact h.symm.imp_right List.mem_takeWhile_imp

/-- What is trimmed away are blanks. -/
theorem mem_trim_or_isBlank {s : Text} {c : Char} (h : c ∈ s) : c ∈ trim s ∨ isBlank c = true := by
  rcases mem_dropWhile_or_isBlank h with hstart | hblank
  · rw [trim, trimEnd, List.mem_reverse]
    exact mem_dropWhile_or_isBlank (List.mem_reverse.mpr hstart)
  · exact .inr hblank

/-- What is split off is a sign. -/
theorem mem_splitSign_or_isSign {s : Text} {c : Char} (h : c ∈ s) :
    c ∈ (splitSign s).2 ∨ c = '+' ∨ c = '-' := by
  unfold splitSign
  split
  · exact (List.mem_cons.mp h).symm.imp_right .inl
  · exact (List.mem_cons.mp h).symm.imp_right .inr
  · exact .inl h

/-- A literal is made of blanks, signs and digits. -/
theorem isBlank_or_isSign_or_isDigit {s : Text} {n : Int} (h : literal? s = some n) {c : Char}
    (hc : c ∈ s) : isBlank c = true ∨ (c = '+' ∨ c = '-') ∨ c.isDigit = true := by
  simp only [literal?, Option.ite_none_right_eq_some, Bool.and_eq_true] at h
  have hdigits := isDigit_of_isDigits h.1.1
  rcases mem_trim_or_isBlank hc with htrim | hblank
  · rcases mem_splitSign_or_isSign htrim with hdigit | hsign
    · exact .inr (.inr (hdigits c hdigit))
    · exact .inr (.inl hsign)
  · exact .inl hblank

/-- A literal is made of glyphs. -/
theorem isGlyph_of_literal? {s : Text} {n : Int} (h : literal? s = some n) :
    ∀ c ∈ s, isGlyph c = true := by
  intro c hc
  rcases isBlank_or_isSign_or_isDigit h hc with hblank | (rfl | rfl) | hdigit
  · exact isGlyph_of_isBlank hblank
  · decide
  · decide
  · exact isGlyph_of_isDigit hdigit

/-- A character that is no blank, sign or digit is not in a literal. -/
theorem ne_of_mem_literal {s : Text} {n : Int} (h : literal? s = some n) {c other : Char}
    (hc : c ∈ s) (hblank : isBlank other = false) (hsign : other ≠ '+' ∧ other ≠ '-')
    (hdigit : other.isDigit = false) : c ≠ other := by
  rintro rfl
  rcases isBlank_or_isSign_or_isDigit h hc with hblank' | (rfl | rfl) | hdigit'
  · simp [hblank] at hblank'
  · exact hsign.1 rfl
  · exact hsign.2 rfl
  · simp [hdigit] at hdigit'

end DiceRoll.Text
