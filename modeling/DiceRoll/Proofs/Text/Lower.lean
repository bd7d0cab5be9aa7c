import DiceRoll.Text.Lower
import Mathlib

/-!
# Lower case and the characters of formulas

Lower-casing keeps the letters, digits and signs that formulas are written with, and it makes a
sign from nothing but that sign. Both facts are read off the table once: its first range holds the
capital letters of ASCII, all others lie beyond ASCII, and no character is mapped below the small
letters.

The case of a character hangs on its neighbours in one rule only, that of the final sigma. So texts
may be lowered one by one where the first holds no sigma, or where a boundary stands between them.
-/

namespace DiceRoll.Text

/-- Only the capital letters among the ASCII characters have another lower-case form. -/
theorem lowerRanges_ascii :
    ∀ range ∈ lowerRanges, range.first = 0x41 ∧ range.last = 0x5A ∨ 0x80 ≤ range.first := by
  decide +kernel

/-- No character is mapped below the small letters. -/
theorem lowerRanges_image : ∀ range ∈ lowerRanges, 0x61 ≤ (range.first : Int) + range.offset := by
  decide +kernel

/-- Whether a character is an ASCII character other than a capital letter. -/
def isPlain (c : Char) : Bool :=
  c.toNat < 0x80 && !(0x41 ≤ c.toNat && c.toNat ≤ 0x5A)

theorem isPlain_of_isDigit {c : Char} (h : c.isDigit = true) : isPlain c = true := by
  have hrange : 48 ≤ c.toNat ∧ c.toNat ≤ 57 := Char.isDigit_iff_toNat.mp h
  simp only [isPlain, Bool.and_eq_true, Bool.not_eq_true', decide_eq_true_eq]
  simp
  omega

/-- No range of the table covers a plain character. -/
theorem not_covers_of_isPlain {c : Char} (h : isPlain c = true) {range : LowerRange}
    (hrange : range ∈ lowerRanges) : range.covers c = false := by
  simp only [isPlain, Bool.and_eq_true, Bool.not_eq_true', decide_eq_true_eq,
    Bool.and_eq_false_iff, decide_eq_false_iff_not] at h
  have hascii := lowerRanges_ascii range hrange
  simp only [LowerRange.covers, Bool.and_eq_false_iff, decide_eq_false_iff_not]
  omega

/-- A plain character is its own lower-case form. -/
theorem lowerChar_of_isPlain {c : Char} (h : isPlain c = true) : lowerChar c = c := by
  have hnone : lowerRanges.find? (·.covers c) = none := by
    rw [List.find?_eq_none]
    intro range hrange
    simp [not_covers_of_isPlain h hrange]
  rw [lowerChar, hnone]

/-- A character below the small letters is the lower-case form of no other one. -/
theorem eq_of_lowerChar_lt {c : Char} (h : (lowerChar c).toNat < 0x61)
    (hpos : (lowerChar c).toNat ≠ 0) : lowerChar c = c := by
  rw [lowerChar] at h hpos ⊢
  split at h
  · rename_i range hfind
    have hcovers := List.find?_some hfind
    have himage := lowerRanges_image range (List.mem_of_find?_eq_some hfind)
    simp only [LowerRange.covers, Bool.and_eq_true, decide_eq_true_eq] at hcovers
    -- A code that is no character would have given the character zero.
    have hge : 0x61 ≤ (c.toNat + range.offset).toNat := by omega
    rw [hfind] at hpos
    simp only [Char.toNat_ofNat] at h hpos
    split at h
    · omega
    · simp_all
  · rfl

/-- A text in lower case holds the simple lower-case forms of its characters, but for the two with
rules of their own. -/
theorem lowerChar_mem_lowerFrom {s : Text} {c : Char} (h : c ∈ s) (hdot : c ≠ '\u0130')
    (hsigma : c ≠ '\u03A3') (afterCased : Bool) : lowerChar c ∈ lowerFrom afterCased s := by
  induction s generalizing afterCased with
  | nil => simp at h
  | cons first rest ih =>
    rw [lowerFrom, List.mem_append]
    rcases List.mem_cons.mp h with rfl | hrest
    · simp [lowerBetween, hdot, hsigma]
    · exact .inr (ih hrest _)

/-! ### Characters that stay as they are -/

/-- Lower-casing leaves the character as it is, whatever stands around it. -/
def IsSettled (c : Char) : Prop :=
  ∀ afterCased rest, lowerBetween afterCased c rest = [c]

/-- A character that is its own simple lower-case form is settled, unless it is one of the two with
rules of their own. -/
theorem isSettled_of_lowerChar_eq {c : Char} (h : lowerChar c = c) (hdot : c ≠ '\u0130')
    (hsigma : c ≠ '\u03A3') : IsSettled c := by
  intro afterCased rest
  rw [lowerBetween, if_neg hdot, if_neg hsigma, h]

theorem isSettled_of_isPlain {c : Char} (h : isPlain c = true) : IsSettled c := by
  refine isSettled_of_lowerChar_eq (lowerChar_of_isPlain h) ?_ ?_ <;>
    · rintro rfl
      simp [isPlain] at h

/-- A text of settled characters is in lower case already. -/
theorem lowerFrom_of_isSettled {s : Text} (h : ∀ c ∈ s, IsSettled c) (afterCased : Bool) :
    lowerFrom afterCased s = s := by
  induction s generalizing afterCased with
  | nil => rfl
  | cons c rest ih =>
    obtain ⟨hc, hrest⟩ := List.forall_mem_cons.mp h
    rw [lowerFrom, hc, ih hrest]
    rfl

theorem lower_of_isSettled {s : Text} (h : ∀ c ∈ s, IsSettled c) : lower s = s :=
  lowerFrom_of_isSettled h false

/-- A text of plain characters is in lower case already. -/
theorem lower_of_isPlain {s : Text} (h : ∀ c ∈ s, isPlain c = true) : lower s = s :=
  lower_of_isSettled fun c hc => isSettled_of_isPlain (h c hc)

/-! ### Texts one after the other -/

/-- Settled characters may be lowered apart from a text in front of them, if it holds no capital
sigma. -/
theorem lowerFrom_append {s t : Text} (hs : '\u03A3' ∉ s) (ht : ∀ c ∈ t, IsSettled c)
    (afterCased : Bool) : lowerFrom afterCased (s ++ t) = lowerFrom afterCased s ++ t := by
  induction s generalizing afterCased with
  | nil => exact lowerFrom_of_isSettled ht afterCased
  | cons c rest ih =>
    simp only [List.mem_cons, not_or] at hs
    have hbetween : lowerBetween afterCased c (rest ++ t) = lowerBetween afterCased c rest := by
      rw [lowerBetween, lowerBetween, if_neg (Ne.symm hs.1), if_neg (Ne.symm hs.1)]
    rw [List.cons_append, lowerFrom, lowerFrom, hbetween, ih hs.2, List.append_assoc]

/-- A character that ends words: the case rules neither look past it nor count it as cased. -/
structure IsBoundary (c : Char) : Prop where
  isSettled : IsSettled c
  not_caseIgnorable : isCaseIgnorable c = false
  not_cased : isCased c = false

/-- What follows a boundary does not decide about the characters before it. -/
theorem beginsCased_append_cons {c : Char} (h : IsBoundary c) (s t : Text) :
    beginsCased (s ++ c :: t) = beginsCased s := by
  rw [beginsCased, beginsCased, List.find?_append]
  cases s.find? fun c => !isCaseIgnorable c with
  | none => simp [h.not_caseIgnorable, h.not_cased]
  | some first => rfl

/-- Lower-casing distributes over a boundary. -/
theorem lower_append_cons {c : Char} (h : IsBoundary c) (s t : Text) :
    lower (s ++ c :: t) = lower s ++ c :: lower t := by
  have hfrom (afterCased : Bool) :
      lowerFrom afterCased (s ++ c :: t) = lowerFrom afterCased s ++ c :: lower t := by
    induction s generalizing afterCased with
    | nil =>
      have hnil : lowerFrom afterCased [] = [] := rfl
      rw [hnil, List.nil_append, List.nil_append, lowerFrom, h.isSettled, h.not_caseIgnorable,
        h.not_cased]
      rfl
    | cons first rest ih =>
      have hbetween : lowerBetween afterCased first (rest ++ c :: t) =
          lowerBetween afterCased first rest := by
        rw [lowerBetween, lowerBetween, beginsCased_append_cons h]
      rw [List.cons_append, lowerFrom, lowerFrom, hbetween, ih, List.append_assoc]
  exact hfrom false

end DiceRoll.Text
