import DiceRoll.Formula.Parse
import DiceRoll.Proofs.Formula.Suffix
import DiceRoll.Proofs.Formula.Token
import DiceRoll.Proofs.Sequence
import DiceRoll.Proofs.Text.Padding
import Mathlib

/-!
# What readable formulas look like

A token reads as a term only if each of the numbers that it is taken apart into is a literal. Every
character of the token is in one of these numbers, but for the letters between them, so a readable
token is made of glyphs. An empty number is no literal, so a readable token is not empty and does
not end in the letter d. All of this carries over to the tokens of a readable formula, and to the
formula itself.
-/

namespace DiceRoll

namespace Suffixes

/-- The texts that are to be read as numbers. -/
def numbers (parts : Suffixes) : List Text :=
  parts.minima ++ parts.rerolls ++ parts.core.splitOn 'd'

/-! ### No character is lost -/

/-- What a text that is split at letters d holds besides them is in one of the pieces. -/
theorem exists_mem_splitOn {s : Text} {c : Char} (h : c ∈ s) (hd : c ≠ 'd') :
    ∃ piece ∈ s.splitOn 'd', c ∈ piece := by
  induction s with
  | nil => simp at h
  | cons first rest ih =>
    rw [List.splitOn_cons_eq_if_modifyHead]
    obtain ⟨piece, pieces, hpieces⟩ := List.exists_cons_of_ne_nil (List.splitOn_ne_nil 'd' rest)
    rcases List.mem_cons.mp h with rfl | hrest
    · rw [if_neg (by simpa using hd), hpieces]
      exact ⟨c :: piece, by simp, by simp⟩
    · obtain ⟨found, hfound, hc⟩ := ih hrest
      split
      · exact ⟨found, List.mem_cons_of_mem _ hfound, hc⟩
      · rw [hpieces] at hfound ⊢
        rcases List.mem_cons.mp hfound with rfl | hfound
        · exact ⟨first :: found, by simp, by simp [hc]⟩
        · exact ⟨found, by simp [hfound], hc⟩

/-- Whether a character is in one of the parts of a token. -/
def Holds (parts : Suffixes) (c : Char) : Prop :=
  c ∈ parts.core ∨ (∃ number ∈ parts.minima, c ∈ number) ∨ ∃ number ∈ parts.rerolls, c ∈ number

section

variable {parts : Suffixes} {c : Char}

theorem holds_minimum_iff {number : Text} :
    { parts with minima := number :: parts.minima }.Holds c ↔ c ∈ number ∨ parts.Holds c := by
  simp only [Holds, List.exists_mem_cons_iff]
  grind

theorem holds_reroll_iff {number : Text} :
    { parts with rerolls := number :: parts.rerolls }.Holds c ↔ c ∈ number ∨ parts.Holds c := by
  simp only [Holds, List.exists_mem_cons_iff]
  grind

theorem holds_core_iff {first : Char} :
    { parts with core := first :: parts.core }.Holds c ↔ c = first ∨ parts.Holds c := by
  simp only [Holds, List.mem_cons, or_assoc]

end

/-- What a part holds is in one of the numbers, but for the letters d between them. -/
theorem exists_mem_numbers {parts : Suffixes} {c : Char} (h : parts.Holds c) (hd : c ≠ 'd') :
    ∃ number ∈ parts.numbers, c ∈ number := by
  simp only [numbers, List.mem_append]
  rcases h with hcore | ⟨number, hnumber, hc⟩ | ⟨number, hnumber, hc⟩
  · obtain ⟨piece, hpiece, hc⟩ := exists_mem_splitOn hcore hd
    exact ⟨piece, .inr hpiece, hc⟩
  · exact ⟨number, .inl (.inl hnumber), hc⟩
  · exact ⟨number, .inl (.inr hnumber), hc⟩

/-- A character of a token, unless it is the letter of a suffix, is in the suffix number at its
start or in one of its parts. -/
theorem mem_number_or_holds {inNumber : Bool} {s : Text} {c : Char} (h : c ∈ s) (he : c ≠ 'e')
    (hm : c ≠ 'm') (hr : c ≠ 'r') : inNumber = true ∧ c ∈ number s ∨ (scan inNumber s).Holds c := by
  fun_induction scan inNumber s with
  | case1 => simp at h
  | case2 inNumber rest parts ih =>
    have hrest := ih ((List.mem_cons.mp h).resolve_left hm)
    exact .inr (holds_minimum_iff.mpr (hrest.imp_left And.right))
  | case3 inNumber rest parts _ ih =>
    have hrest := ih ((List.mem_cons.mp h).resolve_left hr)
    exact .inr (holds_reroll_iff.mpr (hrest.imp_left And.right))
  | case4 inNumber rest parts _ _ ih =>
    refine .inr (holds_core_iff.mpr ((List.mem_cons.mp h).imp_right fun hrest => ?_))
    simpa using ih hrest
  | case5 inNumber first rest hm' hr' hd' hskip ih =>
    rw [number_cons hm' hr' hd']
    rcases List.mem_cons.mp h with rfl | hrest
    · simp only [Bool.or_eq_true, beq_iff_eq] at hskip
      simp [he, hskip.resolve_right he]
    · refine (ih hrest).imp_left (And.imp_right fun hnumber => ?_)
      split <;> simp [hnumber]
  | case6 inNumber first rest _ _ _ _ parts ih =>
    refine .inr (holds_core_iff.mpr ((List.mem_cons.mp h).imp_right fun hrest => ?_))
    simpa using ih hrest

/-! ### Behind a letter d -/

/-- The letter d ends the number of a suffix. -/
theorem number_append_d (s t : Text) : number (s ++ 'd' :: t) = number s :=
  number_append_of_endsNumber s (by simp [EndsNumber, endsNumber])

/-- What stands behind a letter d is taken apart by itself. -/
theorem scan_append_d {inNumber : Bool} (s t : Text) :
    scan inNumber (s ++ 'd' :: t) = {
      core := (scan inNumber s).core ++ 'd' :: (scan false t).core
      minima := (scan inNumber s).minima ++ (scan false t).minima
      rerolls := (scan inNumber s).rerolls ++ (scan false t).rerolls } := by
  fun_induction scan inNumber s with
  | case1 => simp [scan]
  | case2 inNumber rest parts ih =>
    rw [List.cons_append, scan, if_pos rfl, ih, number_append_d]
    rfl
  | case3 inNumber rest parts _ ih =>
    rw [List.cons_append, scan, if_neg (by decide), if_pos rfl, ih, number_append_d]
    rfl
  | case4 inNumber rest parts _ _ ih =>
    rw [List.cons_append, scan, if_neg (by decide), if_neg (by decide), if_pos rfl, ih]
    rfl
  | case5 inNumber first rest hm' hr' hd' hskip ih =>
    rw [List.cons_append, scan, if_neg hm', if_neg hr', if_neg hd', if_pos hskip, ih]
  | case6 inNumber first rest hm' hr' hd' hskip parts ih =>
    rw [List.cons_append, scan, if_neg hm', if_neg hr', if_neg hd', if_neg hskip, ih]
    rfl

end Suffixes

namespace Term

variable {sign : Sign} {s : Text} {term : Term}

/-- Whatever a readable token is taken apart into reads as a number. -/
theorem exists_literal?_of_read? (h : read? sign s = some term) :
    ∀ number ∈ (Suffixes.scan false (normalize s)).numbers, ∃ n, Text.literal? number = some n := by
  obtain ⟨minima, rerolls, numbers, hinto⟩ : ∃ minima rerolls numbers,
      ReadInto s minima rerolls numbers := by
    cases read?_eq_some_iff.mp h with
    | modifier hinto => exact ⟨_, _, _, hinto⟩
    | dice hinto _ _ => exact ⟨_, _, _, hinto⟩
  have hread {texts : List Text} {values : List Int} (h : texts.mapM Text.literal? = some values) :
      ∀ text ∈ texts, ∃ n, Text.literal? text = some n := by
    intro text htext
    obtain ⟨n, -, hn⟩ := exists_mem_of_forall₂ (mapM_eq_some_iff.mp h).flip htext
    exact ⟨n, hn⟩
  rw [Suffixes.numbers, List.forall_mem_append, List.forall_mem_append]
  exact ⟨⟨hread hinto.minima_eq, hread hinto.rerolls_eq⟩, hread hinto.numbers_eq⟩

/-- A token is taken apart as it is in lower case, with or without a count in front. -/
theorem normalize_eq_or (s : Text) :
    normalize s = Text.lower s ∨ normalize s = '1' :: Text.lower s := by
  unfold normalize
  split
  · rename_i rest heq
    exact .inr (by rw [heq])
  · exact .inl rfl

/-- Glyphs that begin with a count are taken as they stand. -/
theorem normalize_of_isGlyph (hs : ∀ c ∈ s, Text.isGlyph c = true) (hd : s.head? ≠ some 'd') :
    normalize s = s := by
  rw [normalize, Text.lower_of_isSettled fun c hc => Text.isSettled_of_isGlyph (hs c hc)]
  split
  · simp at hd
  · rfl

/-- In front of glyphs without a count stands a count of one. -/
theorem normalize_cons_d {rest : Text} (hs : ∀ c ∈ 'd' :: rest, Text.isGlyph c = true) :
    normalize ('d' :: rest) = '1' :: 'd' :: rest := by
  rw [normalize, Text.lower_of_isSettled fun c hc => Text.isSettled_of_isGlyph (hs c hc)]
  rfl

/-- A readable token is made of glyphs. -/
theorem isGlyph_of_read? (h : read? sign s = some term) :
    ∀ c ∈ Text.lower s, Text.isGlyph c = true := by
  intro c hc
  have hnormal : c ∈ normalize s := by
    rcases normalize_eq_or s with heq | heq <;> simp [heq, hc]
  by_cases hletter : c = 'd' ∨ c = 'e' ∨ c = 'm' ∨ c = 'r'
  · rcases hletter with rfl | rfl | rfl | rfl <;> decide
  · simp only [not_or] at hletter
    obtain ⟨hd, he, hm, hr⟩ := hletter
    have hholds := (Suffixes.mem_number_or_holds hnormal he hm hr).resolve_left
      (fun hnumber => Bool.false_ne_true hnumber.1)
    obtain ⟨number, hnumber, hmem⟩ := Suffixes.exists_mem_numbers hholds hd
    obtain ⟨n, hn⟩ := exists_literal?_of_read? h number hnumber
    exact Text.isGlyph_of_literal? hn c hmem

/-- A token with an empty number is not readable. -/
theorem nil_not_mem_numbers_of_read? (h : read? sign s = some term) :
    [] ∉ (Suffixes.scan false (normalize s)).numbers := by
  intro hnil
  obtain ⟨n, hn⟩ := exists_literal?_of_read? h [] hnil
  simp at hn

theorem ne_nil_of_read? (h : read? sign s = some term) : s ≠ [] := by
  rintro rfl
  exact nil_not_mem_numbers_of_read? h (by simp [normalize, Suffixes.scan, Suffixes.numbers])

/-- A readable token does not end in the letter d. -/
theorem getLast?_ne_of_read? (h : read? sign s = some term) :
    (Text.lower s).getLast? ≠ some 'd' := by
  intro hlast
  obtain ⟨before, hbefore⟩ := List.getLast?_eq_some_iff.mp hlast
  have hnormal : ∃ start, normalize s = start ++ ['d'] := by
    rcases normalize_eq_or s with heq | heq
    · exact ⟨before, heq.trans hbefore⟩
    · exact ⟨'1' :: before, by rw [heq, hbefore]; rfl⟩
  obtain ⟨start, hstart⟩ := hnormal
  refine nil_not_mem_numbers_of_read? h ?_
  rw [hstart, Suffixes.scan_append_d, Suffixes.numbers, List.splitOn,
    List.splitOnP_append_cons _ _ (by simp)]
  simp [Suffixes.scan]

end Term

namespace Token

/-- The characters of tokens come from the text and from the token that was open before it. -/
theorem mem_of_mem_scan {sign : Sign} {buffer s : Text} {token : Token}
    (htoken : token ∈ scan sign buffer s) {c : Char} (hc : c ∈ token.text) :
    c ∈ buffer ∨ c ∈ s := by
  fun_induction scan sign buffer s with
  | case1 sign buffer =>
    obtain rfl := List.mem_singleton.mp htoken
    exact .inl (List.mem_reverse.mp hc)
  | case2 sign buffer first rest _ ih | case4 sign first rest _ _ buffer ih =>
    have := ih htoken
    simp only [List.mem_cons] at this ⊢
    tauto
  | case3 sign first rest next _ ih =>
    exact .inr (List.mem_cons_of_mem _ ((ih htoken).resolve_left List.not_mem_nil))
  | case5 sign first rest next _ last others _ ih =>
    rcases List.mem_cons.mp htoken with rfl | htoken
    · exact .inl (List.mem_reverse.mp hc)
    · exact .inr (List.mem_cons_of_mem _ ((ih htoken).resolve_left List.not_mem_nil))

/-- A character of a text is a sign, or it is in one of the tokens. -/
theorem exists_mem_scan {sign : Sign} {buffer s : Text} {c : Char} (hsign : Sign.ofChar? c = none)
    (h : c ∈ buffer ∨ c ∈ s) : ∃ token ∈ scan sign buffer s, c ∈ token.text := by
  fun_induction scan sign buffer s with
  | case1 sign buffer =>
    exact ⟨_, List.mem_singleton_self _, List.mem_reverse.mpr (h.resolve_right List.not_mem_nil)⟩
  | case2 sign buffer first rest _ ih | case4 sign first rest _ _ buffer ih =>
    refine ih ?_
    simp only [List.mem_cons] at h ⊢
    tauto
  | case3 sign first rest next hfirst ih =>
    have hne : c ≠ first := by
      rintro rfl
      simp [hsign] at hfirst
    have hrest := (List.mem_cons.mp (h.resolve_left List.not_mem_nil)).resolve_left hne
    exact ih (.inr hrest)
  | case5 sign first rest next hfirst last others _ ih =>
    have hne : c ≠ first := by
      rintro rfl
      simp [hsign] at hfirst
    rcases h with hbuffer | hrest
    · exact ⟨_, List.mem_cons_self, List.mem_reverse.mpr hbuffer⟩
    · obtain ⟨token, htoken, hc⟩ := ih (.inr ((List.mem_cons.mp hrest).resolve_left hne))
      exact ⟨token, List.mem_cons_of_mem _ htoken, hc⟩

end Token

namespace Formula

variable {s : Text} {formula : Formula}

/-- Every token of a readable formula reads as a term. -/
theorem exists_read?_of_parse (h : parse s = .ok formula) :
    ∀ token ∈ Token.ofText s, ∃ term, Term.read? token.sign token.text = some term := by
  intro token htoken
  obtain ⟨terms, hterms, -⟩ := bind_eq_ok_iff.mp h
  obtain ⟨term, -, hread⟩ := exists_mem_of_forall₂ (mapM_eq_ok_iff.mp hterms).flip htoken
  exact ⟨term, Term.read_eq_ok_iff.mp hread⟩

/-- The tokens of a readable formula are made of glyphs. -/
theorem isGlyph_of_mem_ofText (h : parse s = .ok formula) {token : Token}
    (htoken : token ∈ Token.ofText s) : ∀ c ∈ token.text, Text.isGlyph c = true := by
  obtain ⟨term, hread⟩ := exists_read?_of_parse h token htoken
  refine Text.isGlyph_of_lowerFrom (Term.isGlyph_of_read? hread) fun c hc => ?_
  exact Text.isCapital_of_mem_lowerFrom c
    ((Token.mem_of_mem_scan htoken hc).resolve_left List.not_mem_nil)

/-- The tokens of a readable formula stay as they are when they are lowered once more. -/
theorem lower_of_mem_ofText (h : parse s = .ok formula) {token : Token}
    (htoken : token ∈ Token.ofText s) : Text.lower token.text = token.text :=
  Text.lower_of_isSettled fun c hc =>
    Text.isSettled_of_isGlyph (isGlyph_of_mem_ofText h htoken c hc)

/-- A sign behind a token of a readable formula closes it. -/
theorem closed_of_mem_ofText (h : parse s = .ok formula) {token : Token}
    (htoken : token ∈ Token.ofText s) : Token.Closed token.text := by
  obtain ⟨term, hread⟩ := exists_read?_of_parse h token htoken
  have hlast := Term.getLast?_ne_of_read? hread
  rw [lower_of_mem_ofText h htoken] at hlast
  exact ⟨Term.ne_nil_of_read? hread, Token.signsAfterD_of_mem_ofText token htoken, hlast⟩

/-- A readable formula is made of glyphs once it is in lower case. -/
theorem isGlyph_of_mem_lower (h : parse s = .ok formula) :
    ∀ c ∈ Text.lower s, Text.isGlyph c = true := by
  intro c hc
  cases hsign : Sign.ofChar? c with
  | none =>
    obtain ⟨token, htoken, hmem⟩ := @Token.exists_mem_scan .plus [] _ c hsign (.inr hc)
    exact isGlyph_of_mem_ofText h htoken c hmem
  | some sign =>
    rcases Sign.isSome_ofChar?_iff.mp (by rw [hsign]; rfl) with rfl | rfl <;> decide

/-- A readable formula in lower case stays as it is when it is lowered once more. -/
theorem lower_lower_of_parse (h : parse s = .ok formula) :
    Text.lower (Text.lower s) = Text.lower s :=
  Text.lower_of_isSettled fun c hc => Text.isSettled_of_isGlyph (isGlyph_of_mem_lower h c hc)

/-- A readable formula reads alike in lower case. -/
theorem parse_lower (h : parse s = .ok formula) : parse (Text.lower s) = .ok formula := by
  rw [← h, parse, parse, Token.ofText, Token.ofText, lower_lower_of_parse h]

end Formula

end DiceRoll
