import DiceRoll.Proofs.Text.Lower
import DiceRoll.Text.Numeral
import Mathlib

/-!
# Numerals read back what they say

An integer that is short enough to be written is read back from its numeral, and whatever a literal
reads as is short enough to be written. A literal without a minus sign is not negative. The
integers that users set are short enough as well.
-/

namespace DiceRoll.Text

/-! ### Length and value -/

/-- The integers that can be written are those below a power of ten. -/
theorem fits_iff {n : Int} : fits n = true ↔ n.natAbs < 10 ^ maxDigits := by
  rw [fits, decide_eq_true_iff]
  exact Nat.length_toDigits_le_iff (by decide) (by decide)

@[simp] theorem fits_neg (n : Int) : fits (-n) = fits n := by
  simp [fits]

theorem fits_of_natAbs_le {m n : Int} (h : fits n = true) (hle : m.natAbs ≤ n.natAbs) :
    fits m = true :=
  fits_iff.mpr (hle.trans_lt (fits_iff.mp h))

theorem fits_natAbs (n : Int) : fits n.natAbs = fits n := by
  rw [fits, fits, Int.natAbs_natCast]

/-- Digits say a number below the power of ten that their count gives. -/
theorem ofDigitChars_lt {digits : Text} (h : ∀ c ∈ digits, c.isDigit = true) :
    Nat.ofDigitChars 10 digits 0 < 10 ^ digits.length := by
  induction digits with
  | nil => simp
  | cons c rest ih =>
    have hc : c.toNat ≤ 57 := (Char.isDigit_iff_toNat.mp (h c List.mem_cons_self)).2
    have hrest := ih fun other hother => h other (List.mem_cons_of_mem c hother)
    rw [Nat.ofDigitChars_cons, Nat.ofDigitChars_eq_ofDigitChars_zero, List.length_cons, pow_succ]
    have hdigit : 10 * 0 + (c.toNat - '0'.toNat) ≤ 9 := by
      have : '0'.toNat = 48 := rfl
      omega
    have := Nat.mul_le_mul_left (10 ^ rest.length) hdigit
    omega

theorem isDigit_of_isDigits {s : Text} (h : isDigits s = true) : ∀ c ∈ s, c.isDigit = true := by
  simp only [isDigits, Bool.and_eq_true, List.all_eq_true] at h
  exact h.2

theorem natAbs_signed (negative : Bool) (digits : Text) :
    (signed negative digits).natAbs = Nat.ofDigitChars 10 digits 0 := by
  cases negative <;> simp [signed]

/-- Digits that are few enough say an integer that is short enough. -/
theorem fits_signed {digits : Text} (h : isDigits digits = true)
    (hlength : digits.length ≤ maxDigits) (negative : Bool) :
    fits (signed negative digits) = true := by
  rw [fits_iff, natAbs_signed]
  exact (ofDigitChars_lt (isDigit_of_isDigits h)).trans_le
    (Nat.pow_le_pow_right (by decide) hlength)

/-! ### Literals -/

/-- What a literal reads as is short enough to be written. -/
theorem fits_of_literal? {s : Text} {n : Int} (h : literal? s = some n) : fits n = true := by
  simp only [literal?, Option.ite_none_right_eq_some, Bool.and_eq_true, decide_eq_true_eq,
    Option.some.injEq] at h
  obtain ⟨⟨hdigits, hlength⟩, rfl⟩ := h
  exact fits_signed hdigits hlength _

theorem mem_of_mem_trim {s : Text} {c : Char} (h : c ∈ trim s) : c ∈ s := by
  simp only [trim, trimEnd, List.mem_reverse] at h
  have h' := List.mem_reverse.mp ((List.dropWhile_sublist _).subset h)
  exact (List.dropWhile_sublist _).subset h'

/-- A literal without a minus sign is not negative. -/
theorem nonneg_of_literal? {s : Text} {n : Int} (hminus : '-' ∉ s) (h : literal? s = some n) :
    0 ≤ n := by
  have hplus : (splitSign (trim s)).1 = false := by
    unfold splitSign
    split
    · rfl
    · rename_i rest heq
      exact absurd (mem_of_mem_trim (heq ▸ List.mem_cons_self)) hminus
    · rfl
  simp only [literal?, hplus, Option.ite_none_right_eq_some, Option.some.injEq] at h
  obtain ⟨-, rfl⟩ := h
  simp [signed]

theorem ne_of_isDigit {c other : Char} (h : c.isDigit = true) (hother : other.isDigit = false) :
    c ≠ other := by
  rintro rfl
  simp [hother] at h

theorem isBlank_of_isDigit {c : Char} (h : c.isDigit = true) : isBlank c = false := by
  have hrange : 48 ≤ c.toNat ∧ c.toNat ≤ 57 := Char.isDigit_iff_toNat.mp h
  rw [isBlank, Bool.eq_false_iff, Ne, inRanges_eq_true_iff]
  simp only [blankRanges, List.mem_cons, List.not_mem_nil, or_false, not_exists]
  rintro range ⟨hrange', hc⟩
  rcases hrange' with rfl | rfl | rfl | rfl | rfl | rfl | rfl | rfl | rfl | rfl <;> omega

/-- A text without blanks stays as it is when it is trimmed. -/
theorem trim_of_not_isBlank {s : Text} (h : ∀ c ∈ s, isBlank c = false) : trim s = s := by
  have hstart : s.dropWhile isBlank = s := by
    cases s with
    | nil => rfl
    | cons c rest => simp [h c List.mem_cons_self]
  have hend : s.reverse.dropWhile isBlank = s.reverse := by
    cases hs : s.reverse with
    | nil => rfl
    | cons c rest =>
      have hc : c ∈ s := List.mem_reverse.mp (hs ▸ List.mem_cons_self)
      simp [h c hc]
  rw [trim, hstart, trimEnd, hend, List.reverse_reverse]

/-- The numeral of a natural number is a run of digits. -/
theorem isDigit_of_mem_toDigits {n : Nat} : ∀ c ∈ Nat.toDigits 10 n, c.isDigit = true :=
  fun _ hc => Nat.isDigit_of_mem_toDigits (by decide) (by decide) hc

@[simp] theorem isDigits_toDigits (n : Nat) : isDigits (Nat.toDigits 10 n) = true := by
  simp only [isDigits, Bool.and_eq_true, List.all_eq_true]
  exact ⟨by simp, isDigit_of_mem_toDigits⟩

/-- Digits without a sign in front are no literal with a sign. -/
theorem splitSign_of_isDigit {s : Text} (h : ∀ c ∈ s, c.isDigit = true) :
    splitSign s = (false, s) := by
  unfold splitSign
  split
  · exact absurd rfl (ne_of_isDigit (h '+' List.mem_cons_self) (by decide))
  · exact absurd rfl (ne_of_isDigit (h '-' List.mem_cons_self) (by decide))
  · rfl

/-! ### The characters of numerals -/

theorem isDigit_of_mem_ofInt {n : Int} (h : 0 ≤ n) : ∀ c ∈ ofInt n, c.isDigit = true := by
  rw [ofInt, if_neg (by omega)]
  exact isDigit_of_mem_toDigits

/-- A numeral has digits, behind a minus sign if the number is negative. -/
theorem eq_minus_or_isDigit_of_mem_ofInt {n : Int} {c : Char} (h : c ∈ ofInt n) :
    c = '-' ∨ c.isDigit = true := by
  unfold ofInt at h
  split at h
  · exact (List.mem_cons.mp h).imp_right (isDigit_of_mem_toDigits c)
  · exact .inr (isDigit_of_mem_toDigits c h)

theorem isPlain_of_mem_ofInt {n : Int} : ∀ c ∈ ofInt n, isPlain c = true := fun c hc => by
  rcases eq_minus_or_isDigit_of_mem_ofInt hc with rfl | hdigit
  · decide
  · exact isPlain_of_isDigit hdigit

/-- A character that is neither a digit nor a minus sign is not in a numeral. -/
theorem not_mem_ofInt {n : Int} {c : Char} (hminus : c ≠ '-') (hdigit : c.isDigit = false) :
    c ∉ ofInt n := fun hmem => by
  rcases eq_minus_or_isDigit_of_mem_ofInt hmem with h | h
  · exact hminus h
  · simp [hdigit] at h

/-- A character that is no digit is not in the numeral of an integer that is not negative. -/
theorem not_mem_ofInt_of_nonneg {n : Int} (h : 0 ≤ n) {c : Char} (hdigit : c.isDigit = false) :
    c ∉ ofInt n := fun hmem =>
  ne_of_isDigit (isDigit_of_mem_ofInt h c hmem) hdigit rfl

theorem not_mem_toDigits {n : Nat} {c : Char} (hdigit : c.isDigit = false) :
    c ∉ Nat.toDigits 10 n := fun hmem =>
  ne_of_isDigit (isDigit_of_mem_toDigits c hmem) hdigit rfl

@[simp] theorem ofInt_ne_nil (n : Int) : ofInt n ≠ [] := by
  unfold ofInt
  split <;> simp

/-! ### Reading numerals back -/

/-- The sign and the digits of a numeral. -/
theorem splitSign_ofInt (n : Int) :
    splitSign (ofInt n) = (decide (n < 0), Nat.toDigits 10 n.natAbs) := by
  unfold ofInt
  split
  · simp_all [splitSign]
  · rw [splitSign_of_isDigit isDigit_of_mem_toDigits, decide_eq_false ‹_›]

theorem signed_toDigits (n : Int) :
    signed (decide (n < 0)) (Nat.toDigits 10 n.natAbs) = n := by
  simp only [signed, Nat.ofDigitChars_ten_toDigits, decide_eq_true_eq]
  split <;> omega

/-- Different integers have different numerals. -/
theorem ofInt_injective : Function.Injective ofInt := by
  intro m n h
  have hsplit : (decide (m < 0), Nat.toDigits 10 m.natAbs) =
      (decide (n < 0), Nat.toDigits 10 n.natAbs) := by
    rw [← splitSign_ofInt, ← splitSign_ofInt, h]
  obtain ⟨hsign, hdigits⟩ := Prod.mk.inj hsplit
  rw [← signed_toDigits m, hsign, hdigits, signed_toDigits]

/-- An integer is read back from its numeral. -/
theorem literal?_ofInt {n : Int} (h : fits n = true) : literal? (ofInt n) = some n := by
  have htrim : trim (ofInt n) = ofInt n := by
    refine trim_of_not_isBlank fun c hc => ?_
    rcases eq_minus_or_isDigit_of_mem_ofInt hc with rfl | hdigit
    · decide
    · exact isBlank_of_isDigit hdigit
  have hlength : (Nat.toDigits 10 n.natAbs).length ≤ maxDigits := by simpa [fits] using h
  simp [literal?, htrim, splitSign_ofInt, hlength, signed_toDigits]

theorem ofInt_natCast (n : Nat) : ofInt n = Nat.toDigits 10 n := by
  rw [ofInt, if_neg (by omega), Int.natAbs_natCast]

end DiceRoll.Text
