import DiceRoll.Proofs.Formula.Expressible
import DiceRoll.Proofs.Formula.Readable
import Mathlib

/-!
# The sign of a term

A sign inside a token comes right after a letter d, and taking suffixes out moves nothing over a
letter d. So the first number of a token holds no sign, and is not negative: the sign in front of
the token alone says whether its die set is subtracted, or on which side of zero its modifier lies.
-/

namespace DiceRoll

/-- A number that is neither zero nor negative is negative under a minus sign alone. -/
theorem Sign.apply_lt_zero_iff {sign : Sign} {n : Int} (hn : 0 ≤ n) (hne : sign.apply n ≠ 0) :
    sign.apply n < 0 ↔ sign = .minus := by
  cases sign <;> simp only [apply, reduceCtorEq, iff_true, iff_false] at * <;> omega

/-! ### The first number of a token -/

namespace Suffixes

/-- Taking suffixes out brings no character in. -/
theorem core_subset (inNumber : Bool) (s : Text) : (scan inNumber s).core ⊆ s := by
  induction s generalizing inNumber with
  | nil => exact List.Subset.refl []
  | cons c rest ih =>
    rw [scan]
    split_ifs
    · exact List.subset_cons_of_subset c (ih true)
    · exact List.subset_cons_of_subset c (ih true)
    · exact List.cons_subset_cons c (ih false)
    · exact List.subset_cons_of_subset c (ih inNumber)
    · exact List.cons_subset_cons c (ih false)

/-- The first number of a token is made of what stands in front of its first letter d, so it holds
no sign. Other numbers follow if there is such a letter. -/
theorem exists_splitOn_core {s : Text} (hs : Token.SignsAfterD '+' s) :
    ∃ first rest, (scan false s).core.splitOn 'd' = first :: rest ∧
      (∀ c ∈ first, Sign.ofChar? c = none) ∧ (rest = [] ↔ 'd' ∉ s) := by
  have hfirst {before : Text} (hd : 'd' ∉ before) (hbefore : Token.SignsAfterD '+' before) :
      (scan false before).core.splitOn 'd' = [(scan false before).core] ∧
        ∀ c ∈ (scan false before).core, Sign.ofChar? c = none :=
    ⟨List.splitOn_eq_singleton fun hmem => hd (core_subset _ _ hmem), fun c hc =>
      Token.ofChar?_of_signsAfterD (by decide) hd hbefore c (core_subset _ _ hc)⟩
  by_cases hd : 'd' ∈ s
  · obtain ⟨before, after, rfl, hbefore⟩ := List.eq_append_cons_of_mem hd
    obtain ⟨hsplit, hsigns⟩ := hfirst hbefore (Token.signsAfterD_append.mp hs).1
    refine ⟨_, (scan false after).core.splitOn 'd', ?_, hsigns,
      iff_of_false (List.splitOn_ne_nil _ _) (not_not.mpr hd)⟩
    rw [scan_append_d, List.splitOn, List.splitOnP_append_cons _ _ (by simp)]
    exact congrArg (· ++ _) hsplit
  · obtain ⟨hsplit, hsigns⟩ := hfirst hd hs
    exact ⟨_, [], hsplit, hsigns, iff_of_true rfl hd⟩

end Suffixes

/-- The first number of a token, as it is to be read. -/
def Term.firstNumber (s : Text) : Text :=
  ((Suffixes.scan false (normalize s)).core.splitOn 'd').headD []

/-- The first number of a token whose signs stand right is not negative. Others follow if the token
holds a letter d. -/
theorem Term.ReadInto.nonneg_and_eq_nil_iff {s : Text} {minima rerolls others : List Int}
    {first : Int} (hs : Token.SignsAfterD '+' (normalize s))
    (h : ReadInto s minima rerolls (first :: others)) :
    0 ≤ first ∧ (others = [] ↔ 'd' ∉ normalize s) := by
  obtain ⟨text, rest, hsplit, hsigns, hrest⟩ := Suffixes.exists_splitOn_core hs
  have hnumbers := h.numbers_eq
  rw [hsplit, mapM_eq_some_iff, List.forall₂_cons] at hnumbers
  refine ⟨Text.nonneg_of_literal? (fun hminus => ?_) hnumbers.1, ?_⟩
  · simpa [Sign.ofChar?] using hsigns '-' hminus
  · rw [← hrest, ← List.length_eq_zero_iff, ← List.length_eq_zero_iff, hnumbers.2.length_eq]

/-! ### The terms of a formula -/

namespace Token

/-- Whether a token reads as a die set that is subtracted exactly under a minus sign. -/
structure GivesSet (token : Token) (set : DieSet) : Prop where
  read_eq : Term.read token.sign token.text = .ok (.dice set)
  isNegative_iff : set.isNegative = true ↔ token.sign = .minus

/-- Whether a token reads as a modifier on the side of zero that its sign says. -/
structure GivesModifier (token : Token) (value : Int) : Prop where
  read_eq : Term.read token.sign token.text = .ok (.modifier value)
  nonneg : token.sign = .plus → 0 ≤ value
  nonpos : token.sign = .minus → value ≤ 0

/-- The kinds of term that tokens read as: die sets with a letter d, and modifiers without one. -/
inductive Gives (token : Token) : Term → Prop where
  | dice {set : DieSet} (hd : token.text.contains 'd' = true) (hset : token.GivesSet set) :
    Gives token (.dice set)
  | modifier {value : Int} (hd : token.text.contains 'd' = false)
    (hvalue : token.GivesModifier value) : Gives token (.modifier value)

/-- The tokens with a letter d give the die sets of all terms. -/
theorem forall₂_givesSet {tokens : List Token} {terms : List Term}
    (h : List.Forall₂ Gives tokens terms) :
    List.Forall₂ GivesSet (tokens.filter (·.text.contains 'd')) (terms.filterMap Term.set?) := by
  refine forall₂_filter_filterMap (fun token term hgives => ?_) h
  cases hgives with
  | dice hd hset => exact .inl ⟨hd, _, rfl, hset⟩
  | modifier hd _ => exact .inr ⟨hd, rfl⟩

/-- The tokens without a letter d give the modifiers of all terms. -/
theorem forall₂_givesModifier {tokens : List Token} {terms : List Term}
    (h : List.Forall₂ Gives tokens terms) :
    List.Forall₂ GivesModifier (tokens.filter (! ·.text.contains 'd'))
      (terms.filterMap Term.modifier?) := by
  refine forall₂_filter_filterMap (fun token term hgives => ?_) h
  cases hgives with
  | dice hd _ => exact .inr ⟨by rw [hd]; rfl, rfl⟩
  | modifier hd hvalue => exact .inl ⟨by rw [hd]; rfl, _, rfl, hvalue⟩

end Token

namespace Formula

variable {s : Text} {formula : Formula}

/-- A token of a readable formula gives a term of the kind that its letters say, under its sign. -/
theorem gives_of_mem_ofText (h : parse s = .ok formula) {token : Token}
    (htoken : token ∈ Token.ofText s) {term : Term}
    (hread : Term.read token.sign token.text = .ok term) : token.Gives term := by
  have hmem : 'd' ∈ Term.normalize token.text ↔ token.text.contains 'd' = true := by
    have hlower := lower_of_mem_ofText h htoken
    rcases Term.normalize_eq_or token.text with heq | heq <;> simp [heq, hlower]
  have hs := Term.signsAfterD_normalize (Token.signsAfterD_of_mem_ofText token htoken)
  cases Term.read?_eq_some_iff.mp (Term.read_eq_ok_iff.mp hread) with
  | modifier hinto =>
    obtain ⟨hnonneg, hd⟩ := hinto.nonneg_and_eq_nil_iff hs
    refine .modifier (Bool.eq_false_iff.mpr (hmem.not.mp (hd.mp rfl))) ⟨hread, ?_, ?_⟩
    · intro hsign
      rwa [hsign]
    · intro hsign
      rw [hsign]
      exact Int.neg_nonpos_of_nonneg hnonneg
  | dice hinto hcount _ =>
    obtain ⟨hnonneg, hd⟩ := hinto.nonneg_and_eq_nil_iff hs
    have hmore := hd.not.mp (List.cons_ne_nil _ _)
    refine .dice (hmem.mp (not_not.mp hmore)) ⟨hread, ?_⟩
    exact decide_eq_true_iff.trans (Sign.apply_lt_zero_iff hnonneg hcount)

/-- The tokens of a readable formula that hold a letter d give its die sets, in written order, and
the others its modifiers. Each term takes the sign of its token, as no first number holds one. -/
theorem signs_of_parse (h : parse s = .ok formula) :
    formula.sets.length + formula.modifiers.length = (Token.ofText s).length ∧
      List.Forall₂ Token.GivesSet ((Token.ofText s).filter (·.text.contains 'd')) formula.sets ∧
      List.Forall₂ Token.GivesModifier ((Token.ofText s).filter (! ·.text.contains 'd'))
        formula.modifiers ∧
      ∀ token ∈ Token.ofText s, ∀ c ∈ Term.firstNumber token.text, Sign.ofChar? c = none := by
  obtain ⟨terms, hterms, hformula⟩ := bind_eq_ok_iff.mp h
  obtain rfl : ofTerms terms = formula := by simpa [pure, Except.pure] using hformula
  have hgives : List.Forall₂ Token.Gives (Token.ofText s) terms :=
    ((List.forall₂_and_left _ _).mpr ⟨fun token htoken => htoken, mapM_eq_ok_iff.mp hterms⟩).imp
      fun token term ⟨htoken, hread⟩ => gives_of_mem_ofText h htoken hread
  have hsets := Token.forall₂_givesSet hgives
  have hmodifiers := Token.forall₂_givesModifier hgives
  refine ⟨?_, hsets, hmodifiers, fun token htoken => ?_⟩
  · rw [ofTerms, ← hsets.length_eq, ← hmodifiers.length_eq, ← List.length_eq_length_filter_add]
  · have hs := Term.signsAfterD_normalize (Token.signsAfterD_of_mem_ofText token htoken)
    obtain ⟨first, rest, hsplit, hsigns, -⟩ := Suffixes.exists_splitOn_core hs
    rwa [Term.firstNumber, hsplit]

/-- Two die sets and two modifiers; the sign of the drop count is not that of its set. -/
theorem signs_of_two_sets_and_two_modifiers :
    parse "2em1d6d-1-d4-2+5".toList = .ok ⟨[
      { size := 6, signedCount := 2, drop := -1, exploding := true, minimum := 1 },
      { size := 4, signedCount := -1 }], [-2, 5]⟩ ∧
      List.Forall₂ Token.GivesSet [⟨.plus, "2em1d6d-1".toList⟩, ⟨.minus, "d4".toList⟩] [
        { size := 6, signedCount := 2, drop := -1, exploding := true, minimum := 1 },
        { size := 4, signedCount := -1 }] ∧
      List.Forall₂ Token.GivesModifier [⟨.minus, ['2']⟩, ⟨.plus, ['5']⟩] [-2, 5] := by
  have hparse : parse "2em1d6d-1-d4-2+5".toList = .ok ⟨[
      { size := 6, signedCount := 2, drop := -1, exploding := true, minimum := 1 },
      { size := 4, signedCount := -1 }], [-2, 5]⟩ := by
    decide +kernel
  have htokens : Token.ofText "2em1d6d-1-d4-2+5".toList = [⟨.plus, "2em1d6d-1".toList⟩,
      ⟨.minus, "d4".toList⟩, ⟨.minus, ['2']⟩, ⟨.plus, ['5']⟩] := by
    decide +kernel
  obtain ⟨-, hsets, hmodifiers, -⟩ := signs_of_parse hparse
  rw [htokens] at hsets hmodifiers
  exact ⟨hparse, hsets, hmodifiers⟩

end Formula

end DiceRoll
