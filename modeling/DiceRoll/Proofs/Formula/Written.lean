import DiceRoll.Proofs.Formula.Cut
import DiceRoll.Proofs.Formula.Expressible
import DiceRoll.Proofs.Formula.Spelling
import Mathlib

/-!
# Formulas in writing

Every expressible formula has a written form that reads as it: first its die sets and then its
modifiers, each as a token behind its sign. A die set is written with its count, its size and its
drop count between letters d, and with a suffix for each of its rules. So the formulas that texts
read as are exactly the expressible ones.
-/

namespace DiceRoll

/-! ### The written form -/

/-- The suffixes of rerolled faces. -/
def DieSet.writeRerolled (set : DieSet) : Text :=
  set.rerolled.toList.flatMap fun face => 'r' :: Text.ofInt face

/-- A die set as a token text. -/
def DieSet.write (set : DieSet) : Text :=
  ['d'].intercalate [Nat.toDigits 10 set.count, Text.ofInt set.size, Text.ofInt set.drop] ++
    ((if set.exploding then ['e'] else []) ++ (set.writeRerolled ++ 'm' :: Text.ofInt set.minimum))

/-- A term as a token. -/
def Term.token : Term → Token
  | .modifier value => ⟨if value < 0 then .minus else .plus, Nat.toDigits 10 value.natAbs⟩
  | .dice set => ⟨if set.isNegative then .minus else .plus, set.write⟩

/-- The terms of a formula, die sets first. -/
def Formula.terms (formula : Formula) : List Term :=
  formula.sets.map .dice ++ formula.modifiers.map .modifier

/-- A formula as a text. -/
def Formula.write (formula : Formula) : Text :=
  (formula.terms.map Term.token).flatMap Token.write

/-! ### Reading a written token -/

namespace DieSet

variable {set : DieSet}

theorem x_not_mem_write (set : DieSet) : 'x' ∉ set.write := by
  cases hexploding : set.exploding <;>
    simp [write, writeRerolled, hexploding, List.intercalate, Text.not_mem_ofInt,
      Text.not_mem_toDigits]

theorem isPlain_of_mem_write : ∀ c ∈ set.write, Text.isPlain c = true := by
  have hcount : ∀ c ∈ Nat.toDigits 10 set.count, Text.isPlain c = true := fun c hc =>
    Text.isPlain_of_isDigit (Text.isDigit_of_mem_toDigits c hc)
  have hexploding : ∀ c ∈ if set.exploding then ['e'] else [], Text.isPlain c = true := by
    split <;> simp [Text.isPlain]
  have hrerolled : ∀ c ∈ set.writeRerolled, Text.isPlain c = true := by
    intro c hc
    obtain ⟨face, -, hc⟩ := List.mem_flatMap.mp hc
    exact List.forall_mem_cons.mpr ⟨by decide, Text.isPlain_of_mem_ofInt⟩ c hc
  simp only [write, List.intercalate_cons_cons, List.intercalate_singleton, List.forall_mem_append,
    List.forall_mem_cons, List.not_mem_nil, IsEmpty.forall_iff, implies_true, and_true]
  have hd : Text.isPlain 'd' = true := by decide
  exact ⟨⟨⟨hcount, hd⟩, ⟨Text.isPlain_of_mem_ofInt, hd⟩, Text.isPlain_of_mem_ofInt⟩,
    hexploding, hrerolled, by decide, Text.isPlain_of_mem_ofInt⟩

/-- A suffix for each rerolled face. -/
def Expressible.rerolls (h : set.Expressible) : List Suffix :=
  set.rerolled.toList.attach.map fun face =>
    .reroll (.ofInt face.1 (h.fits_rerolled face.1 face.2))

/-- The literals of the written form. All suffixes stand behind the drop count. -/
def Expressible.spelling (h : set.Expressible) : Spelling where
  count := some { number := .ofInt set.count h.fits_count }
  size := { number := .ofInt set.size h.fits_size }
  drop := some {
    number := .ofInt set.drop h.fits_drop
    suffixes := (if set.exploding then [.exploding] else []) ++
      (h.rerolls ++ [.minimum (.ofInt set.minimum h.fits_minimum)]) }

theorem flatMap_rerolls (h : set.Expressible) :
    h.rerolls.flatMap Suffix.write = set.writeRerolled := by
  simp [Expressible.rerolls, writeRerolled, List.flatMap_map, Suffix.write]

theorem values_rerolls (h : set.Expressible) :
    (h.rerolls.filterMap Suffix.reroll?).map (·.value) = set.rerolled.toList := by
  simp [Expressible.rerolls, List.filterMap_map, Function.comp_def, Suffix.reroll?]

theorem minima_rerolls (h : set.Expressible) : h.rerolls.filterMap Suffix.minimum? = [] := by
  simp [Expressible.rerolls, Suffix.minimum?]

theorem exploding_not_mem_rerolls (h : set.Expressible) : Suffix.exploding ∉ h.rerolls := by
  simp [Expressible.rerolls]

theorem write_spelling (h : set.Expressible) : h.spelling.write = set.write := by
  cases hexploding : set.exploding <;>
    simp [Expressible.spelling, Spelling.write, Suffixed.write, Suffix.write, write,
      List.intercalate, Text.ofInt_natCast, flatMap_rerolls, hexploding]

theorem set_spelling (h : set.Expressible) :
    h.spelling.set (if set.isNegative then .minus else .plus) = set := by
  have hsign : (if set.isNegative then Sign.minus else Sign.plus).apply set.count =
      set.signedCount := by
    simpa [isNegative, count] using Sign.apply_natAbs set.signedCount
  have hrerolled : (h.spelling.suffixes.filterMap Suffix.reroll?).map (·.value) =
      set.rerolled.toList := by
    cases hexploding : set.exploding <;>
      simp [Spelling.suffixes, Expressible.spelling, hexploding, values_rerolls, Suffix.reroll?,
        List.filterMap_cons]
  have hminima : (h.spelling.suffixes.filterMap Suffix.minimum?).map (·.value) =
      [set.minimum] := by
    cases hexploding : set.exploding <;>
      simp [Spelling.suffixes, Expressible.spelling, hexploding, minima_rerolls, Suffix.minimum?,
        List.filterMap_cons]
  have hexploding : decide (Suffix.exploding ∈ h.spelling.suffixes) = set.exploding := by
    cases hexploding : set.exploding <;>
      simp [Spelling.suffixes, Expressible.spelling, hexploding, exploding_not_mem_rerolls]
  rw [Spelling.set, hrerolled, hminima, hexploding, Faces.ofList_toList]
  simp [Expressible.spelling, Spelling.dice, hsign]

/-- A written die set reads as the set. -/
theorem read?_write (h : set.Expressible) :
    Term.read? (if set.isNegative then .minus else .plus) set.write = some (.dice set) := by
  have hdice : h.spelling.dice ≠ 0 := by
    simpa [Expressible.spelling, Spelling.dice, count] using h.signedCount_ne_zero
  rw [← write_spelling h, Spelling.read?_write, set_spelling h, if_pos ⟨hdice, h.size_pos⟩]

end DieSet

/-! ### Reading a written formula -/

/-- A written die set is closed by the next sign. -/
theorem DieSet.closed_write {set : DieSet} (h : set.Expressible) : Token.Closed set.write := by
  have hrerolled (before : Char) : Token.SignsAfterD before (set.writeRerolled ++ ['m']) := by
    refine Token.signsAfterD_of_forall fun c hc => ?_
    simp only [writeRerolled, List.mem_append, List.mem_flatMap, List.mem_cons,
      List.not_mem_nil, or_false] at hc
    rcases hc with ⟨face, hface, rfl | hc⟩ | rfl
    · rfl
    · exact Sign.ofChar?_of_isDigit (Text.isDigit_of_mem_ofInt (h.rerolled_nonneg face hface) c hc)
    · rfl
  have hcore : Token.SignsAfterD '+' (['d'].intercalate
      [Nat.toDigits 10 set.count, Text.ofInt set.size, Text.ofInt set.drop]) := by
    have hsize : Token.SignsAfterD 'd' (Text.ofInt set.size ++ 'd' :: Text.ofInt set.drop) :=
      Token.signsAfterD_append.mpr ⟨Token.signsAfterD_ofInt _,
        Token.signsAfterD_cons.mpr ⟨by simp [Sign.ofChar?], Token.signsAfterD_ofInt _⟩⟩
    simpa [List.intercalate] using Token.signsAfterD_append.mpr
      ⟨Token.signsAfterD_of_isDigit Text.isDigit_of_mem_toDigits,
        Token.signsAfterD_cons.mpr ⟨by simp [Sign.ofChar?], hsize⟩⟩
  have hexploding (before : Char) :
      Token.SignsAfterD before (if set.exploding then ['e'] else []) := by
    split <;> simp [Sign.ofChar?]
  have hclosed := Token.closed_append (Token.signsAfterD_append.mpr ⟨hcore,
    Token.signsAfterD_append.mpr ⟨hexploding _, hrerolled _⟩⟩) (Text.ofInt_ne_nil set.minimum)
    (Text.isDigit_of_mem_ofInt h.minimum_nonneg)
  simpa [write] using hclosed

namespace Term

variable {term : Term}

theorem closed_token (h : term.Expressible) : Token.Closed term.token.text := by
  cases term with
  | modifier value =>
    simpa [token] using Token.closed_append (Token.signsAfterD_nil '+')
      (Nat.toDigits_ne_nil) (Text.isDigit_of_mem_toDigits)
  | dice set => exact DieSet.closed_write h

theorem isPlain_of_mem_token : ∀ c ∈ term.token.write, Text.isPlain c = true := by
  intro c hc
  rcases List.mem_cons.mp hc with rfl | hc
  · cases term.token.sign <;> decide
  · cases term with
    | modifier value => exact Text.isPlain_of_isDigit (Text.isDigit_of_mem_toDigits c hc)
    | dice set => exact DieSet.isPlain_of_mem_write c hc

/-- A written number reads as a modifier. -/
theorem read?_toDigits {value : Int} (h : Text.fits value = true) :
    read? (if value < 0 then .minus else .plus) (Nat.toDigits 10 value.natAbs) =
      some (.modifier value) := by
  have hwrite : Suffixed.write { number := .ofInt value.natAbs ((Text.fits_natAbs _).trans h) } =
      Nat.toDigits 10 value.natAbs := by
    rw [Suffixed.write, Text.Literal.text_ofInt, Text.ofInt_natCast]
    exact List.append_nil _
  rw [← hwrite, Suffixed.read?_write, Text.Literal.value_ofInt, Sign.apply_natAbs]

/-- The token of a term reads as the term. -/
theorem read_token (h : term.Expressible) :
    read term.token.sign term.token.text = .ok term := by
  have hsome : read? term.token.sign term.token.text = some term := by
    cases term with
    | modifier value => exact read?_toDigits h
    | dice set => exact DieSet.read?_write h
  rw [read, hsome]

end Term

namespace Formula

variable {formula : Formula}

@[simp] theorem ofTerms_terms (formula : Formula) : ofTerms formula.terms = formula := by
  ext1 <;> simp [terms, ofTerms, List.filterMap_map, Function.comp_def, Term.set?, Term.modifier?]

theorem expressible_of_mem_terms (h : formula.Expressible) :
    ∀ term ∈ formula.terms, term.Expressible := by
  intro term hterm
  rcases List.mem_append.mp hterm with hterm | hterm
  · obtain ⟨set, hset, rfl⟩ := List.mem_map.mp hterm
    exact h.sets set hset
  · obtain ⟨value, hvalue, rfl⟩ := List.mem_map.mp hterm
    exact h.modifiers value hvalue

theorem isPlain_of_mem_write (formula : Formula) : ∀ c ∈ formula.write, Text.isPlain c = true := by
  intro c hc
  obtain ⟨token, htoken, hc⟩ := List.mem_flatMap.mp hc
  obtain ⟨term, -, rfl⟩ := List.mem_map.mp htoken
  exact Term.isPlain_of_mem_token c hc

/-- No written formula has a repetition count. -/
theorem x_not_mem_write (formula : Formula) : 'x' ∉ formula.write := by
  intro hc
  obtain ⟨token, htoken, hc⟩ := List.mem_flatMap.mp hc
  obtain ⟨term, -, rfl⟩ := List.mem_map.mp htoken
  rcases List.mem_cons.mp hc with hsign | hc
  · cases hterm : term.token.sign <;> simp [hterm, Sign.toChar] at hsign
  · cases term with
    | modifier value => exact Text.not_mem_toDigits (by decide) hc
    | dice set => exact DieSet.x_not_mem_write set hc

/-- A written formula has the tokens of its terms. -/
theorem ofText_write (h : formula.Expressible) :
    Token.ofText formula.write = formula.terms.map Term.token := by
  rw [Token.ofText, Text.lower_of_isPlain formula.isPlain_of_mem_write, write]
  refine Token.scan_nil_flatMap_write ?_ fun token htoken => ?_
  · have := h.ne_nil
    simpa [terms, or_iff_not_imp_left] using this
  · obtain ⟨term, hterm, rfl⟩ := List.mem_map.mp htoken
    exact Term.closed_token (expressible_of_mem_terms h term hterm)

/-- An expressible formula is read back from its written form. -/
theorem parse_write (h : formula.Expressible) : parse formula.write = .ok formula := by
  have hterms : (formula.terms.map Term.token).mapM (fun token => Term.read token.sign token.text) =
      .ok formula.terms :=
    mapM_map_eq_ok fun term hterm => Term.read_token (expressible_of_mem_terms h term hterm)
  rw [parse, ofText_write h, hterms]
  exact congrArg Except.ok (ofTerms_terms formula)

example : write ⟨[{ size := 6, signedCount := -2, drop := -1, minimum := 3 }], [5]⟩ =
    "-2d6d-1m3+5".toList := by
  decide

/-- The formulas that texts read as are exactly the expressible ones. -/
theorem exists_parse_eq_ok_iff {formula : Formula} :
    (∃ written, parse written = .ok formula) ↔ formula.Expressible :=
  ⟨fun ⟨_, h⟩ => expressible_of_parse h, fun h => ⟨formula.write, parse_write h⟩⟩

end Formula

end DiceRoll
