import DiceRoll.Formula.Parse
import DiceRoll.Proofs.Formula.Suffix
import DiceRoll.Proofs.Sequence
import DiceRoll.Proofs.Text.Numeral
import Mathlib

/-!
# What formulas can express

Whatever is read from a formula has at least one term. Its die sets have faces and dice, their
minima and rerolled faces are not negative, and every number is short enough to be written. No check
says that minima and rerolled faces are not negative: the number of a suffix ends before the next
letter d, and a sign inside a token comes right after one, so no suffix number holds a sign.
-/

namespace DiceRoll

/-- What a die set read from a formula satisfies. -/
structure DieSet.Expressible (set : DieSet) : Prop where
  size_pos : 1 ≤ set.size
  signedCount_ne_zero : set.signedCount ≠ 0
  minimum_nonneg : 0 ≤ set.minimum
  rerolled_nonneg : ∀ face ∈ set.rerolled, 0 ≤ face
  fits_size : Text.fits set.size = true
  fits_signedCount : Text.fits set.signedCount = true
  fits_drop : Text.fits set.drop = true
  fits_minimum : Text.fits set.minimum = true
  fits_rerolled : ∀ face ∈ set.rerolled, Text.fits face = true

theorem DieSet.Expressible.fits_count {set : DieSet} (h : set.Expressible) :
    Text.fits set.count = true := by
  rw [count, Text.fits_natAbs]
  exact h.fits_signedCount

/-- What a term read from a formula satisfies. -/
def Term.Expressible : Term → Prop
  | .modifier value => Text.fits value = true
  | .dice set => set.Expressible

/-- What a formula read from a text satisfies. -/
structure Formula.Expressible (formula : Formula) : Prop where
  ne_nil : formula.sets ≠ [] ∨ formula.modifiers ≠ []
  sets : ∀ set ∈ formula.sets, set.Expressible
  modifiers : ∀ value ∈ formula.modifiers, Text.fits value = true

@[simp] theorem Sign.fits_apply (sign : Sign) (n : Int) :
    Text.fits (sign.apply n) = Text.fits n := by
  cases sign <;> simp [Sign.apply]

@[simp] theorem Sign.apply_eq_zero_iff {sign : Sign} {n : Int} : sign.apply n = 0 ↔ n = 0 := by
  cases sign <;> simp [Sign.apply]

/-! ### What is read is expressible -/

namespace Term

open Token (SignsAfterD signsAfterD_cons signsAfterD_lower)

/-- The count that a token leaves out brings no sign into a wrong place. -/
theorem signsAfterD_normalize {s : Text} (h : SignsAfterD '+' s) :
    SignsAfterD '+' (normalize s) := by
  have hlower := signsAfterD_lower h
  unfold normalize
  split
  · rename_i rest heq
    rw [heq] at hlower
    exact signsAfterD_cons.mpr ⟨by decide, signsAfterD_cons.mpr
      ⟨by decide, (signsAfterD_cons.mp hlower).2⟩⟩
  · exact hlower

/-- Literals without signs read as integers that are neither negative nor too long. -/
theorem nonneg_and_fits_of_mapM_literal? {texts : List Text} {values : List Int}
    (hsigns : ∀ digits ∈ texts, ∀ c ∈ digits, Sign.ofChar? c = none)
    (h : texts.mapM Text.literal? = some values) :
    ∀ value ∈ values, 0 ≤ value ∧ Text.fits value = true := by
  intro value hvalue
  obtain ⟨digits, hdigits, hread⟩ := exists_mem_of_forall₂ (mapM_eq_some_iff.mp h) hvalue
  have hminus : '-' ∉ digits := fun hmem => by
    simpa [Sign.ofChar?] using hsigns digits hdigits _ hmem
  exact ⟨Text.nonneg_of_literal? hminus hread, Text.fits_of_literal? hread⟩

/-- The numbers between letters d are short enough to be written. -/
theorem ReadInto.fits {s : Text} {minima rerolls numbers : List Int}
    (h : ReadInto s minima rerolls numbers) : ∀ number ∈ numbers, Text.fits number = true := by
  intro number hnumber
  obtain ⟨_, -, hread⟩ := exists_mem_of_forall₂ (mapM_eq_some_iff.mp h.numbers_eq) hnumber
  exact Text.fits_of_literal? hread

/-- What is read from a token whose signs stand right is expressible. -/
theorem expressible_of_read? {sign : Sign} {s : Text} {term : Term} (hs : SignsAfterD '+' s)
    (h : read? sign s = some term) : term.Expressible := by
  have hsigns := @Suffixes.not_sign_of_mem_scan '+' false _ (signsAfterD_normalize hs)
  cases read?_eq_some_iff.mp h with
  | modifier hread => simpa [Expressible] using hread.fits _ List.mem_cons_self
  | @dice minima rerolls count size drop hread hcount hsize =>
    have hrerolls := nonneg_and_fits_of_mapM_literal? hsigns.2 hread.rerolls_eq
    have hminimum : 0 ≤ minima.getLast?.getD 0 ∧ Text.fits (minima.getLast?.getD 0) = true := by
      cases hlast : minima.getLast? with
      | none => exact ⟨le_refl _, by decide⟩
      | some value =>
        exact nonneg_and_fits_of_mapM_literal? hsigns.1 hread.minima_eq value
          (List.mem_of_getLast? hlast)
    exact {
      size_pos := hsize
      signedCount_ne_zero := hcount
      minimum_nonneg := hminimum.1
      rerolled_nonneg := fun face hface => (hrerolls face (Faces.mem_ofList.mp hface)).1
      fits_size := hread.fits size (by simp)
      fits_signedCount := (Sign.fits_apply _ _).trans (hread.fits count (by simp))
      fits_drop := by
        cases drop with
        | none => exact (by decide : Text.fits 0 = true)
        | some drop => exact hread.fits drop (by simp)
      fits_minimum := hminimum.2
      fits_rerolled := fun face hface => (hrerolls face (Faces.mem_ofList.mp hface)).2 }

end Term

namespace Formula

/-- The terms that are read from a text are expressible, and there is one. -/
theorem expressible_of_parse {s : Text} {formula : Formula} (h : parse s = .ok formula) :
    formula.Expressible := by
  obtain ⟨terms, hterms, hformula⟩ := bind_eq_ok_iff.mp h
  obtain rfl : ofTerms terms = formula := by simpa [pure, Except.pure] using hformula
  have hread := mapM_eq_ok_iff.mp hterms
  have hexpressible : ∀ term ∈ terms, term.Expressible := fun term hterm => by
    obtain ⟨token, htoken, hread⟩ := exists_mem_of_forall₂ hread hterm
    exact Term.expressible_of_read? (Token.signsAfterD_of_mem_ofText token htoken)
      (Term.read_eq_ok_iff.mp hread)
  refine ⟨?_, fun set hset => ?_, fun value hvalue => ?_⟩
  · cases terms with
    | nil =>
      have hlength := hread.length_eq
      exact absurd (List.length_eq_zero_iff.mp hlength) (Token.ofText_ne_nil s)
    | cons first rest => cases first <;> simp [ofTerms, Term.set?, Term.modifier?]
  · obtain ⟨term, hterm, hset⟩ := List.mem_filterMap.mp hset
    cases term with
    | modifier value => simp [Term.set?] at hset
    | dice other =>
      obtain rfl : other = set := by simpa [Term.set?] using hset
      exact hexpressible _ hterm
  · obtain ⟨term, hterm, hvalue⟩ := List.mem_filterMap.mp hvalue
    cases term with
    | dice set => simp [Term.modifier?] at hvalue
    | modifier other =>
      obtain rfl : other = value := by simpa [Term.modifier?] using hvalue
      exact hexpressible _ hterm

end Formula

end DiceRoll
