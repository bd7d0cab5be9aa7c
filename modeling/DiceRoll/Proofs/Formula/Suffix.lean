import DiceRoll.Formula.Term
import DiceRoll.Proofs.Formula.Token
import Mathlib

/-!
# Suffixes of tokens

The number of a suffix ends before the next letter r, d or m, and a sign inside a token comes right
after a letter d, so no suffix number holds a sign. A text without letters stays together: inside a
suffix number it is passed over, and elsewhere it is kept.
-/

namespace DiceRoll.Suffixes

open Token (SignsAfterD signsAfterD_cons signsAfterD_append ofChar?_of_signsAfterD)

/-! ### Suffix numbers hold no signs -/

/-- The number of a suffix holds no sign. -/
theorem not_sign_of_mem_number {before : Char} {s : Text} (hbefore : before ≠ 'd')
    (h : SignsAfterD before s) : ∀ c ∈ number s, Sign.ofChar? c = none := by
  have hd : 'd' ∉ s.takeWhile fun c => !endsNumber c := fun hmem => by
    simpa [endsNumber] using List.mem_takeWhile_imp hmem
  have htake : SignsAfterD before (s.takeWhile fun c => !endsNumber c) := by
    have hsplit := List.takeWhile_append_dropWhile (p := fun c => !endsNumber c) (l := s)
    rw [← hsplit, signsAfterD_append] at h
    exact h.1
  exact fun c hc => ofChar?_of_signsAfterD hbefore hd htake c (List.mem_filter.mp hc).1

/-- The numbers of all suffixes of a token hold no signs. -/
theorem not_sign_of_mem_scan {before : Char} {inNumber : Bool} {s : Text}
    (h : SignsAfterD before s) :
    (∀ digits ∈ (scan inNumber s).minima, ∀ c ∈ digits, Sign.ofChar? c = none) ∧
      ∀ digits ∈ (scan inNumber s).rerolls, ∀ c ∈ digits, Sign.ofChar? c = none := by
  induction s generalizing before inNumber with
  | nil => simp [scan]
  | cons c rest ih =>
    have hrest := (signsAfterD_cons.mp h).2
    have htrue := @ih c true hrest
    have hfalse := @ih c false hrest
    have hboth := @ih c inNumber hrest
    simp only [scan]
    split
    · rename_i hc
      have hnumber := not_sign_of_mem_number (by rw [hc]; decide) hrest
      exact ⟨by simpa using ⟨hnumber, htrue.1⟩, htrue.2⟩
    · split
      · rename_i hc
        have hnumber := not_sign_of_mem_number (by rw [hc]; decide) hrest
        exact ⟨htrue.1, by simpa using ⟨hnumber, htrue.2⟩⟩
      · split
        · exact hfalse
        · split
          · exact hboth
          · exact hfalse

/-! ### Taking suffixes out -/

/-- What holds no letter of a suffix is kept as it is. -/
theorem scan_append_core {core rest : Text} (h : ∀ c ∈ core, c ≠ 'm' ∧ c ≠ 'r' ∧ c ≠ 'e') :
    scan false (core ++ rest) =
      { scan false rest with core := core ++ (scan false rest).core } := by
  induction core with
  | nil => rfl
  | cons c others ih =>
    obtain ⟨⟨hm, hr, he⟩, hothers⟩ := List.forall_mem_cons.mp h
    rw [List.cons_append, scan, ih hothers]
    simp [hm, hr, he]

/-- Whether a text ends the number in front of it: it is empty or begins with another suffix. -/
def EndsNumber (s : Text) : Prop :=
  ∀ c ∈ s.head?, endsNumber c = true

/-- A character that ends a number is the number of none. -/
theorem number_cons_of_endsNumber {c : Char} (h : endsNumber c = true) (s : Text) :
    number (c :: s) = [] := by
  simp [number, h]

/-- The number of a suffix goes on with what does not end it, and leaves the letter e out. -/
theorem number_cons_of_not_endsNumber {c : Char} (h : ¬ endsNumber c = true) (s : Text) :
    number (c :: s) = if c = 'e' then number s else c :: number s := by
  rw [number, List.takeWhile_cons_of_pos (by simpa using h), List.filter_cons]
  by_cases he : c = 'e' <;> simp [he, number]

/-- A number is over where a text begins that ends it. -/
theorem number_append_of_endsNumber (s : Text) {t : Text} (h : EndsNumber t) :
    number (s ++ t) = number s := by
  induction s with
  | nil =>
    cases t with
    | nil => rfl
    | cons c rest => exact number_cons_of_endsNumber (h c rfl) rest
  | cons c rest ih =>
    rw [List.cons_append]
    by_cases hends : endsNumber c = true
    · rw [number_cons_of_endsNumber hends, number_cons_of_endsNumber hends]
    · rw [number_cons_of_not_endsNumber hends, number_cons_of_not_endsNumber hends, ih]

/-! ### Texts without letters -/

/-- Whether a text holds none of the letters that tokens give a meaning to. -/
def Letterless (s : Text) : Prop :=
  ∀ c ∈ s, c ≠ 'm' ∧ c ≠ 'r' ∧ c ≠ 'e' ∧ c ≠ 'd'

variable {s : Text}

/-- Letters that begin no suffix and no size do not end a number. -/
theorem number_cons {c : Char} (hm : c ≠ 'm') (hr : c ≠ 'r') (hd : c ≠ 'd') (s : Text) :
    number (c :: s) = if c = 'e' then number s else c :: number s :=
  number_cons_of_not_endsNumber (by simp [endsNumber, hm, hr, hd]) s

/-- The number of a suffix goes on through a text without letters. -/
theorem number_append (hs : Letterless s) (t : Text) : number (s ++ t) = s ++ number t := by
  induction s with
  | nil => rfl
  | cons c rest ih =>
    obtain ⟨⟨hm, hr, he, hd⟩, hrest⟩ := List.forall_mem_cons.mp hs
    rw [List.cons_append, number_cons hm hr hd, if_neg he, ih hrest, List.cons_append]

/-- Outside of suffix numbers a text without letters is kept. -/
theorem scan_false_append (hs : Letterless s) (t : Text) :
    scan false (s ++ t) = { scan false t with core := s ++ (scan false t).core } :=
  scan_append_core fun c hc =>
    let ⟨hm, hr, he, _⟩ := hs c hc
    ⟨hm, hr, he⟩

/-- Inside a suffix number a text without letters is passed over. -/
theorem scan_true_append (hs : Letterless s) (t : Text) : scan true (s ++ t) = scan true t := by
  induction s with
  | nil => rfl
  | cons c rest ih =>
    obtain ⟨⟨hm, hr, he, hd⟩, hrest⟩ := List.forall_mem_cons.mp hs
    rw [List.cons_append, scan, if_neg hm, if_neg hr, if_neg hd]
    exact ih hrest

end DiceRoll.Suffixes
