import DiceRoll.Proofs.Formula.Readable
import Mathlib

/-!
# Formulas one after the other

A readable formula ends in a token that the next sign closes, so what is written behind that sign
is read as if it stood alone. Behind a minus sign its first term is negated, unless it begins with a
sign of its own, which then counts instead.
-/

namespace DiceRoll

/-! ### Tokens behind a sign -/

/-- Signs end words. -/
theorem Sign.isBoundary_toChar (sign : Sign) : Text.IsBoundary sign.toChar := by
  cases sign <;>
    exact ⟨Text.isSettled_of_isPlain (by decide), by decide +kernel, by decide +kernel⟩

namespace Token

/-- Behind closed tokens a sign opens a token of its own. -/
theorem scan_append_cons {sign next : Sign} {buffer s t : Text} {c : Char}
    (hc : Sign.ofChar? c = some next) (h : ∀ token ∈ scan sign buffer s, Closed token.text) :
    scan sign buffer (s ++ c :: t) = scan sign buffer s ++ scan next [] t := by
  fun_induction scan sign buffer s with
  | case1 sign buffer =>
    have hclosed := h ⟨sign, buffer.reverse⟩ (List.mem_singleton_self _)
    simpa using @scan_reverse_cons sign next buffer.reverse t c hclosed hc
  | case2 sign buffer first rest hfirst ih =>
    rw [List.cons_append, scan, hfirst]
    exact ih h
  | case3 sign first rest next hfirst ih =>
    rw [List.cons_append, scan, hfirst]
    exact ih h
  | case4 sign first rest next hfirst buffer ih =>
    rw [List.cons_append, scan, hfirst]
    exact ih h
  | case5 sign first rest next hfirst last others hlast ih =>
    rw [List.cons_append, scan, hfirst]
    simp only [if_neg hlast]
    rw [ih (List.forall_mem_cons.mp h).2]
    rfl

/-- Behind closed tokens the tokens of a text are those that it has by itself, the first one under
the sign in front. -/
theorem ofText_append_cons {s : Text} (h : ∀ token ∈ ofText s, Closed token.text) (sign : Sign)
    (t : Text) : ofText (s ++ sign.toChar :: t) = ofText s ++ scan sign [] (Text.lower t) := by
  rw [ofText, Text.lower_append_cons sign.isBoundary_toChar,
    scan_append_cons sign.ofChar?_toChar h, ofText]

/-- Whether a text begins with no sign. -/
def Unsigned (s : Text) : Prop :=
  ∀ c ∈ s.head?, Sign.ofChar? c = none

/-- The sign in front of a text that begins with none is the sign of the first token, and no other
token depends on it. -/
theorem exists_scan_eq {buffer s : Text} (h : buffer ≠ [] ∨ Unsigned s) :
    ∃ text rest, ∀ sign, scan sign buffer s = ⟨sign, text⟩ :: rest := by
  induction s generalizing buffer with
  | nil => exact ⟨buffer.reverse, [], fun _ => rfl⟩
  | cons c rest ih =>
    cases hc : Sign.ofChar? c with
    | none =>
      obtain ⟨text, others, heq⟩ := @ih (c :: buffer) (.inl (List.cons_ne_nil _ _))
      exact ⟨text, others, fun sign => by rw [scan, hc]; exact heq sign⟩
    | some next =>
      cases buffer with
      | nil =>
        have hnone := h.resolve_left (fun hne => hne rfl) c rfl
        simp [hc] at hnone
      | cons last before =>
        by_cases hd : last = 'd'
        · obtain ⟨text, others, heq⟩ := @ih (c :: last :: before) (.inl (List.cons_ne_nil _ _))
          exact ⟨text, others, fun sign => by rw [scan, hc]; simpa [hd] using heq sign⟩
        · exact ⟨(last :: before).reverse, scan next [] rest, fun sign => by simp [scan, hc, hd]⟩

/-- Lower-casing puts no sign at the start of a text. -/
theorem unsigned_lower {s : Text} (h : Unsigned s) : Unsigned (Text.lower s) := by
  cases s with
  | nil => exact h
  | cons c rest =>
    have hc : Sign.ofChar? c = none := h c rfl
    intro first hfirst
    rw [Text.lower, Text.lowerFrom, Text.lowerBetween] at hfirst
    split at hfirst
    · obtain rfl : 'i' = first := by simpa using hfirst
      rfl
    · split at hfirst
      · obtain rfl : '\u03C3' = first := by simpa using hfirst
        rfl
      · obtain rfl : Text.lowerChar c = first := by simpa using hfirst
        refine Option.not_isSome_iff_eq_none.mp fun hsign => ?_
        have heq := lowerChar_eq_of_isSome hsign
        rw [heq, hc] at hsign
        cases hsign

end Token

namespace Term

/-- The term under the opposite sign. -/
def negate : Term → Term
  | .modifier value => .modifier (-value)
  | .dice set => .dice { set with signedCount := -set.signedCount }

theorem dice?_neg (count size drop minimum : Int) (exploding : Bool) (rerolled : List Int) :
    dice? (-count) size drop minimum exploding rerolled =
      (dice? count size drop minimum exploding rerolled).map negate := by
  by_cases h : count ≠ 0 ∧ 1 ≤ size
  · rw [dice?, dice?, if_pos h, if_pos (by simpa using h)]
    rfl
  · rw [dice?, dice?, if_neg h, if_neg (by simpa using h)]
    rfl

theorem read?_minus (s : Text) : read? .minus s = (read? .plus s).map negate := by
  simp only [read?, Option.bind_eq_bind, Option.map_bind, Function.comp_def]
  refine Option.bind_congr fun minima _ => Option.bind_congr fun rerolls _ =>
    Option.bind_congr fun numbers _ => ?_
  rcases numbers with _ | ⟨count, _ | ⟨size, _ | ⟨drop, _ | ⟨more, rest⟩⟩⟩⟩
  · rfl
  · rfl
  · exact dice?_neg ..
  · exact dice?_neg ..
  · rfl

/-- A token that is read under a minus sign gives the negated term. -/
theorem read_minus (s : Text) : read .minus s = (read .plus s).map negate := by
  rw [read, read, read?_minus]
  cases read? .plus s <;> rfl

/-- The terms that tokens read as. -/
def readAll (tokens : List Token) : Except Malformed (List Term) :=
  tokens.mapM fun token => read token.sign token.text

/-- Under a minus sign in front of the first token only the first term is another one. -/
theorem readAll_minus_cons (text : Text) (rest : List Token) :
    readAll (⟨.minus, text⟩ :: rest) =
      (readAll (⟨.plus, text⟩ :: rest)).map (List.modifyHead negate) := by
  rw [readAll, readAll, List.mapM_cons, List.mapM_cons]
  dsimp only
  rw [read_minus]
  cases read .plus text with
  | error fault => rfl
  | ok term => cases rest.mapM fun token => read token.sign token.text <;> rfl

end Term

namespace Formula

/-- The terms of a text, in written order. -/
def readTerms (s : Text) : Except Malformed (List Term) :=
  Term.readAll (Token.ofText s)

/-- A formula is made of its terms. -/
theorem parse_eq_map (s : Text) : parse s = (readTerms s).map ofTerms := by
  rw [parse, readTerms, Term.readAll]
  cases (Token.ofText s).mapM fun token => Term.read token.sign token.text <;> rfl

/-- What is written behind a readable formula and a sign adds the terms that its tokens read as. -/
theorem parse_append_toChar {written : Text} {formula : Formula} (h : parse written = .ok formula)
    (sign : Sign) (other : Text) :
    parse (written ++ sign.toChar :: other) =
      (Term.readAll (Token.scan sign [] (Text.lower other))).map (formula ++ ofTerms ·) := by
  have hclosed : ∀ token ∈ Token.ofText written, Token.Closed token.text := fun _ htoken =>
    closed_of_mem_ofText h htoken
  rw [parse_eq_map] at h
  rw [parse_eq_map, readTerms, Token.ofText_append_cons hclosed, Term.readAll, List.mapM_append]
  change (readTerms written >>= fun terms => Term.readAll _ >>= fun others =>
    pure (terms ++ others)).map ofTerms = _
  cases hterms : readTerms written with
  | error fault => simp [hterms, Except.map] at h
  | ok terms =>
    obtain rfl : ofTerms terms = formula := by simpa [hterms, Except.map] using h
    cases Term.readAll (Token.scan sign [] (Text.lower other)) with
    | error fault => rfl
    | ok others => exact congrArg Except.ok (ofTerms_append terms others)

/-- What is written behind a readable formula and a sign is read by itself. Behind a plus sign it
counts as it stands. Behind a minus sign its first term is negated, if it does not begin with a sign
of its own. -/
theorem parse_append_sign {written : Text} {formula : Formula} (h : parse written = .ok formula)
    (other : Text) :
    parse (written ++ '+' :: other) = (parse other).map (formula ++ ·) ∧
      (Token.Unsigned other → parse (written ++ '-' :: other) =
        (readTerms other).map fun terms => formula ++ ofTerms (terms.modifyHead Term.negate)) := by
  refine ⟨(parse_append_toChar h .plus other).trans ?_, fun hother =>
    (parse_append_toChar h .minus other).trans ?_⟩
  · rw [parse_eq_map, readTerms, Token.ofText]
    cases Term.readAll _ <;> rfl
  · obtain ⟨text, rest, hscan⟩ := @Token.exists_scan_eq [] _ (.inr (Token.unsigned_lower hother))
    rw [readTerms, Token.ofText, hscan, hscan, Term.readAll_minus_cons]
    cases Term.readAll _ <;> rfl

/-- A die from which a drop of one die is subtracted. -/
theorem parse_append_sign_of_dice :
    parse "2d6".toList = .ok ⟨[{ size := 6, signedCount := 2 }], []⟩ ∧
      Token.Unsigned "3d4d1+5".toList ∧
      parse ("2d6".toList ++ '-' :: "3d4d1+5".toList) = .ok
        ⟨[{ size := 6, signedCount := 2 }, { size := 4, signedCount := -3, drop := 1 }], [5]⟩ := by
  have hparse : parse "2d6".toList = .ok ⟨[{ size := 6, signedCount := 2 }], []⟩ := by
    decide +kernel
  have hunsigned : Token.Unsigned "3d4d1+5".toList := by simp [Token.Unsigned, Sign.ofChar?]
  refine ⟨hparse, hunsigned, ((parse_append_sign hparse _).2 hunsigned).trans ?_⟩
  decide +kernel

end Formula

end DiceRoll
