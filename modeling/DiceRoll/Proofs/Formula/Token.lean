import DiceRoll.Formula.Token
import DiceRoll.Proofs.Text.Numeral
import Mathlib

/-!
# Where signs stand in tokens

A sign inside a token comes right after the letter d: anywhere else it would have closed the token.
Lower-casing a token once more keeps this. Conversely, a text whose signs stand right continues the
open token, and a sign behind a closed token opens the next one.
-/

namespace DiceRoll

theorem Sign.isSome_ofChar?_iff {c : Char} : (Sign.ofChar? c).isSome ↔ c = '+' ∨ c = '-' := by
  unfold Sign.ofChar?
  split <;> simp_all

/-- A digit is no sign. -/
theorem Sign.ofChar?_of_isDigit {c : Char} (h : c.isDigit = true) : Sign.ofChar? c = none := by
  refine Option.not_isSome_iff_eq_none.mp fun hsome => ?_
  rcases Sign.isSome_ofChar?_iff.mp hsome with rfl | rfl <;> exact absurd h (by decide)

/-- The sign in front of a written number gives the number back. -/
theorem Sign.apply_natAbs (n : Int) :
    (if n < 0 then Sign.minus else Sign.plus).apply n.natAbs = n := by
  split <;> simp only [Sign.apply] <;> omega

namespace Token

/-- Every sign in a text comes right after the letter d; `before` stands in front of the text. -/
def SignsAfterD (before : Char) (s : Text) : Prop :=
  (before :: s).IsChain fun last c => (Sign.ofChar? c).isSome → last = 'd'

@[simp] theorem signsAfterD_nil (before : Char) : SignsAfterD before [] := .singleton before

@[simp] theorem signsAfterD_cons {before c : Char} {s : Text} :
    SignsAfterD before (c :: s) ↔
      ((Sign.ofChar? c).isSome → before = 'd') ∧ SignsAfterD c s :=
  List.isChain_cons_cons

/-- Behind the letter d signs may stand wherever they may behind another character. -/
theorem signsAfterD_mono {before before' : Char} {s : Text} (hbefore : before = 'd' → before' = 'd')
    (h : SignsAfterD before s) : SignsAfterD before' s := by
  cases s with
  | nil => simp
  | cons c rest =>
    rw [signsAfterD_cons] at h ⊢
    exact ⟨fun hc => hbefore (h.1 hc), h.2⟩

/-- A text without signs has none in a wrong place. -/
theorem signsAfterD_of_forall {before : Char} {s : Text} (h : ∀ c ∈ s, Sign.ofChar? c = none) :
    SignsAfterD before s := by
  induction s generalizing before with
  | nil => simp
  | cons c rest ih =>
    obtain ⟨hc, hrest⟩ := List.forall_mem_cons.mp h
    exact signsAfterD_cons.mpr ⟨by simp [hc], ih hrest⟩

/-- Where no letter d stands there is no sign either. -/
theorem ofChar?_of_signsAfterD {before : Char} {s : Text} (hbefore : before ≠ 'd') (hd : 'd' ∉ s)
    (h : SignsAfterD before s) : ∀ c ∈ s, Sign.ofChar? c = none := by
  induction s generalizing before with
  | nil => simp
  | cons c rest ih =>
    rw [signsAfterD_cons] at h
    rw [List.mem_cons, not_or] at hd
    refine List.forall_mem_cons.mpr ⟨?_, ih (Ne.symm hd.1) hd.2 h.2⟩
    exact Option.not_isSome_iff_eq_none.mp fun hsign => hbefore (h.1 hsign)

theorem signsAfterD_of_isDigit {before : Char} {s : Text} (h : ∀ c ∈ s, c.isDigit = true) :
    SignsAfterD before s :=
  signsAfterD_of_forall fun c hc => Sign.ofChar?_of_isDigit (h c hc)

/-- A numeral may stand behind the letter d, whatever its sign. -/
theorem signsAfterD_ofInt (n : Int) : SignsAfterD 'd' (Text.ofInt n) := by
  unfold Text.ofInt
  split
  · exact signsAfterD_cons.mpr ⟨fun _ => rfl, signsAfterD_of_isDigit Text.isDigit_of_mem_toDigits⟩
  · exact signsAfterD_of_isDigit Text.isDigit_of_mem_toDigits

/-- Signs stand right in two texts, one after the other, when they do in each of them. -/
theorem signsAfterD_append {before : Char} {s t : Text} :
    SignsAfterD before (s ++ t) ↔
      SignsAfterD before s ∧ SignsAfterD (s.getLast?.getD before) t := by
  induction s generalizing before with
  | nil => simp
  | cons c rest ih =>
    rw [List.cons_append, signsAfterD_cons, signsAfterD_cons, ih, List.getLast?_cons, and_assoc,
      Option.getD_some]

/-- A sign may continue an open token behind the letter d, and any other character anywhere. -/
theorem signsAfterD_reverse_cons {before c : Char} {buffer : Text}
    (h : SignsAfterD before buffer.reverse)
    (hc : (Sign.ofChar? c).isSome → buffer.head?.getD before = 'd') :
    SignsAfterD before (c :: buffer).reverse := by
  rw [List.reverse_cons, signsAfterD_append, List.getLast?_reverse]
  exact ⟨h, signsAfterD_cons.mpr ⟨hc, signsAfterD_nil c⟩⟩

/-- The tokens of a text that continues a good one are good. -/
theorem signsAfterD_of_mem_scan {sign : Sign} {buffer s : Text}
    (h : SignsAfterD '+' buffer.reverse) :
    ∀ token ∈ scan sign buffer s, SignsAfterD '+' token.text := by
  fun_induction scan sign buffer s with
  | case1 sign buffer => simpa using h
  | case2 sign buffer c rest hnone ih => exact ih (signsAfterD_reverse_cons h (by simp [hnone]))
  | case3 sign c rest next hsome ih => exact ih (by simp)
  | case4 sign c rest next hsome others ih =>
    exact ih (signsAfterD_reverse_cons h fun _ => rfl)
  | case5 sign c rest next hsome last others hlast ih =>
    intro token htoken
    rcases List.mem_cons.mp htoken with rfl | htoken
    · exact h
    · exact ih (by simp) token htoken

/-- In a token of a text every sign comes right after the letter d. -/
theorem signsAfterD_of_mem_ofText {s : Text} : ∀ token ∈ ofText s, SignsAfterD '+' token.text :=
  signsAfterD_of_mem_scan (by simp)

/-- A character whose lower-case form is a sign is that sign. -/
theorem lowerChar_eq_of_isSome {c : Char} (h : (Sign.ofChar? (Text.lowerChar c)).isSome) :
    Text.lowerChar c = c := by
  rcases Sign.isSome_ofChar?_iff.mp h with hsign | hsign <;>
    exact Text.eq_of_lowerChar_lt (by rw [hsign]; decide) (by rw [hsign]; decide)

/-- Lower-casing puts no sign in a wrong place. -/
theorem signsAfterD_lowerFrom {before before' : Char} {afterCased : Bool} {s : Text}
    (hbefore : before = 'd' → before' = 'd') (h : SignsAfterD before s) :
    SignsAfterD before' (Text.lowerFrom afterCased s) := by
  induction s generalizing before before' afterCased with
  | nil => simp [Text.lowerFrom]
  | cons c rest ih =>
    rw [signsAfterD_cons] at h
    rw [Text.lowerFrom, Text.lowerBetween]
    -- The dotted capital I becomes two characters, and the sigma depends on those around it.
    split
    · rename_i hc
      refine signsAfterD_cons.mpr ⟨by simp [Sign.ofChar?], signsAfterD_cons.mpr ⟨by decide, ?_⟩⟩
      exact ih (by simp [hc]) h.2
    · split
      · rename_i hc
        refine signsAfterD_cons.mpr ⟨by split <;> simp [Sign.ofChar?], ?_⟩
        exact ih (by simp [hc]) h.2
      · refine signsAfterD_cons.mpr ⟨fun hsign => ?_, ?_⟩
        · rw [lowerChar_eq_of_isSome hsign] at hsign
          exact hbefore (h.1 hsign)
        · exact ih (by rintro rfl; exact Text.lowerChar_of_isPlain (by decide)) h.2

/-- A token text whose signs stand right keeps them so in lower case. -/
theorem signsAfterD_lower {s : Text} (h : SignsAfterD '+' s) : SignsAfterD '+' (Text.lower s) :=
  signsAfterD_lowerFrom id h

/-! ### Written tokens -/

/-- A text whose signs stand right continues the open token. -/
theorem scan_append {sign : Sign} {buffer s rest : Text}
    (h : SignsAfterD (buffer.head?.getD '+') s) :
    scan sign buffer (s ++ rest) = scan sign (s.reverse ++ buffer) rest := by
  induction s generalizing buffer with
  | nil => rfl
  | cons c others ih =>
    rw [signsAfterD_cons] at h
    rw [List.cons_append, scan, List.reverse_cons, List.append_assoc, List.singleton_append]
    cases hsign : Sign.ofChar? c with
    | none => exact ih (by simpa using h.2)
    | some next =>
      have hd := h.1 (by simp [hsign])
      cases buffer with
      | nil => simp at hd
      | cons last before =>
        obtain rfl : last = 'd' := by simpa using hd
        exact ih (by simpa using h.2)

/-- A text whose signs stand right opens a token. -/
theorem scan_nil_append {sign : Sign} {s rest : Text} (h : SignsAfterD '+' s) :
    scan sign [] (s ++ rest) = scan sign s.reverse rest := by
  have hscan : scan sign [] (s ++ rest) = scan sign (s.reverse ++ []) rest := scan_append h
  rwa [List.append_nil] at hscan

/-- A token in front of which its sign is written. -/
def write (token : Token) : Text :=
  token.sign.toChar :: token.text

/-- Whether a sign behind a text closes the token: the text is not empty, its signs stand right, and
it does not end in the letter d. -/
structure Closed (s : Text) : Prop where
  ne_nil : s ≠ []
  signsAfterD : SignsAfterD '+' s
  getLast?_ne : s.getLast? ≠ some 'd'

/-- A text that ends in digits is closed by the next sign. -/
theorem closed_append {s digits : Text} (hs : SignsAfterD '+' s) (hne : digits ≠ [])
    (h : ∀ c ∈ digits, c.isDigit = true) : Closed (s ++ digits) where
  ne_nil := by simp [hne]
  signsAfterD := signsAfterD_append.mpr ⟨hs, signsAfterD_of_isDigit h⟩
  getLast?_ne := by
    rw [List.getLast?_append_of_ne_nil s hne]
    intro hlast
    exact Text.ne_of_isDigit (h 'd' (List.mem_of_getLast? hlast)) (by decide) rfl

/-- A sign behind a closed token opens the next one. -/
theorem scan_reverse_cons {sign next : Sign} {s rest : Text} {c : Char} (hs : Closed s)
    (hc : Sign.ofChar? c = some next) :
    scan sign s.reverse (c :: rest) = ⟨sign, s⟩ :: scan next [] rest := by
  rw [scan, hc]
  cases hreverse : s.reverse with
  | nil => exact absurd (List.reverse_eq_nil_iff.mp hreverse) hs.ne_nil
  | cons last others =>
    have hlast : last ≠ 'd' := by
      rintro rfl
      exact hs.getLast?_ne (by rw [← List.head?_reverse, hreverse]; rfl)
    simp only [if_neg hlast, ← hreverse, List.reverse_reverse]

end Token

end DiceRoll
