import DiceRoll.Proofs.Formula.Cut
import DiceRoll.Proofs.Formula.Readable
import DiceRoll.Proofs.Formula.Suffix
import Mathlib

/-!
# Blanks around terms

Blanks behind a token end up behind its last number, and blanks in front of it end up in front of
its first number, where they do not matter. A token that begins with the letter d has no first
number: its count of one is put in front only where the letter comes first, so blanks in front of it
take the place of the count and make the token unreadable. A readable formula can therefore be
spaced out freely, but for the blanks in front of its tokens without a count.
-/

namespace DiceRoll

/-! ### Blanks behind a token -/

namespace Suffixes

/-- Parts of a token with blanks behind some of them. -/
structure Padded (parts padded : Suffixes) : Prop where
  core : Text.Padded parts.core padded.core
  minima : List.Forall₂ Text.Padded parts.minima padded.minima
  rerolls : List.Forall₂ Text.Padded parts.rerolls padded.rerolls

theorem letterless_of_isBlanks {s : Text} (h : Text.IsBlanks s) : Letterless s := fun _ hc =>
  ⟨h.ne hc (by decide), h.ne hc (by decide), h.ne hc (by decide), h.ne hc (by decide)⟩

/-- Blanks may stand in the number of a suffix. -/
theorem number_of_isBlanks {s : Text} (h : Text.IsBlanks s) : number s = s := by
  simpa [number] using number_append (letterless_of_isBlanks h) []

/-- Blanks behind a token do not end a suffix number. -/
theorem padded_number {after : Text} (h : Text.IsBlanks after) (s : Text) :
    Text.Padded (number s) (number (s ++ after)) := by
  induction s with
  | nil => exact ⟨after, h, number_of_isBlanks h⟩
  | cons c rest ih =>
    by_cases hends : endsNumber c = true
    · simpa [number, hends] using Text.Padded.refl []
    · rw [List.cons_append, number_cons_of_not_endsNumber hends,
        number_cons_of_not_endsNumber hends]
      split
      · exact ih
      · exact ih.cons c

/-- Blanks by themselves are passed over inside a suffix number, and kept elsewhere. -/
theorem scan_of_isBlanks {s : Text} (h : Text.IsBlanks s) (inNumber : Bool) :
    scan inNumber s = { core := if inNumber then [] else s } := by
  have hletter := letterless_of_isBlanks h
  cases inNumber with
  | false => simpa [scan] using scan_false_append hletter []
  | true => simpa [scan] using scan_true_append hletter []

/-- Blanks behind a token end up behind its parts. -/
theorem padded_scan {after : Text} (h : Text.IsBlanks after) (inNumber : Bool) (s : Text) :
    Padded (scan inNumber s) (scan inNumber (s ++ after)) := by
  fun_induction scan inNumber s with
  | case1 inNumber =>
    rw [List.nil_append, scan_of_isBlanks h]
    refine ⟨?_, .nil, .nil⟩
    split
    · exact .refl []
    · exact ⟨after, h, rfl⟩
  | case2 inNumber rest parts ih =>
    rw [List.cons_append, scan, if_pos rfl]
    exact ⟨ih.core, .cons (padded_number h rest) ih.minima, ih.rerolls⟩
  | case3 inNumber rest parts _ ih =>
    rw [List.cons_append, scan, if_neg (by decide), if_pos rfl]
    exact ⟨ih.core, ih.minima, .cons (padded_number h rest) ih.rerolls⟩
  | case4 inNumber rest parts _ _ ih =>
    rw [List.cons_append, scan, if_neg (by decide), if_neg (by decide), if_pos rfl]
    exact ⟨ih.core.cons 'd', ih.minima, ih.rerolls⟩
  | case5 inNumber first rest hm hr hd hskip ih =>
    rw [List.cons_append, scan, if_neg hm, if_neg hr, if_neg hd, if_pos hskip]
    exact ih
  | case6 inNumber first rest hm hr hd hskip parts ih =>
    rw [List.cons_append, scan, if_neg hm, if_neg hr, if_neg hd, if_neg hskip]
    exact ⟨ih.core.cons first, ih.minima, ih.rerolls⟩

/-- Blanks behind a text stand behind its last piece when it is split. -/
theorem padded_splitOn {core padded : Text} (h : Text.Padded core padded) :
    List.Forall₂ Text.Padded (core.splitOn 'd') (padded.splitOn 'd') := by
  obtain ⟨after, hafter, rfl⟩ := h
  induction core with
  | nil =>
    have hd : 'd' ∉ after := fun hmem => hafter.ne hmem (by decide) rfl
    rw [List.nil_append, List.splitOn_eq_singleton hd, List.splitOn_nil]
    exact .cons ⟨after, hafter, rfl⟩ .nil
  | cons c rest ih =>
    rw [List.cons_append, List.splitOn_cons_eq_if_modifyHead, List.splitOn_cons_eq_if_modifyHead]
    split
    · exact .cons (.refl []) ih
    · generalize rest.splitOn 'd' = pieces at ih ⊢
      generalize (rest ++ after).splitOn 'd' = others at ih ⊢
      cases ih with
      | nil => exact .nil
      | cons hfirst hrest => exact .cons (hfirst.cons c) hrest

/-- Blanks in front of a text stand in front of its first piece when it is split. -/
theorem splitOn_blanks_append {before : Text} (h : Text.IsBlanks before) (core : Text) :
    (before ++ core).splitOn 'd' = (core.splitOn 'd').modifyHead (before ++ ·) := by
  have hletter := letterless_of_isBlanks h
  clear h
  induction before with
  | nil =>
    rw [List.nil_append]
    cases core.splitOn 'd' <;> rfl
  | cons c rest ih =>
    obtain ⟨⟨-, -, -, hd⟩, hrest⟩ := List.forall_mem_cons.mp hletter
    rw [List.cons_append, List.splitOn_cons_eq_if_modifyHead, if_neg (by simpa using hd), ih hrest]
    cases core.splitOn 'd' <;> rfl

/-- Blanks in front of a text do not change the numbers between its letters d. -/
theorem mapM_splitOn_blanks_append {before : Text} (h : Text.IsBlanks before) (core : Text) :
    ((before ++ core).splitOn 'd').mapM Text.literal? = (core.splitOn 'd').mapM Text.literal? := by
  rw [splitOn_blanks_append h]
  cases core.splitOn 'd' with
  | nil => rfl
  | cons first rest =>
    rw [List.modifyHead_cons, List.mapM_cons, List.mapM_cons, Text.literal?_blanks_append h]

end Suffixes

namespace Term

variable {before s after : Text}

/-- A text behind blanks does not begin with the letter d. -/
theorem head?_append_ne (h : Text.IsBlanks before) (hs : before = [] → s.head? ≠ some 'd') :
    (before ++ s).head? ≠ some 'd' := by
  cases before with
  | nil => exact hs rfl
  | cons c rest =>
    intro hhead
    obtain rfl : c = 'd' := by simpa using hhead
    exact h.ne List.mem_cons_self (by decide) rfl

/-- Blanks behind a token stay there when a count is put in front. -/
theorem normalize_append (hs : ∀ c ∈ s, Text.isGlyph c = true) (hafter : Text.IsBlanks after) :
    normalize (s ++ after) = normalize s ++ after := by
  have hboth : ∀ c ∈ s ++ after, Text.isGlyph c = true :=
    List.forall_mem_append.mpr ⟨hs, hafter.isGlyph⟩
  rcases s with _ | ⟨c, rest⟩
  · have hhead := @head?_append_ne after [] hafter (by simp)
    rw [List.append_nil] at hhead
    exact normalize_of_isGlyph hboth hhead
  · by_cases hc : c = 'd'
    · subst hc
      rw [normalize_cons_d hs]
      exact normalize_cons_d hboth
    · rw [normalize_of_isGlyph hs (by simpa using hc),
        normalize_of_isGlyph hboth (by simpa using hc)]

/-- Blanks behind a token do not change what it reads as. -/
theorem read?_append_blanks (sign : Sign) (hs : ∀ c ∈ s, Text.isGlyph c = true)
    (hafter : Text.IsBlanks after) : read? sign (s ++ after) = read? sign s := by
  have hparts := Suffixes.padded_scan hafter false (normalize s)
  have hexploding : (normalize s ++ after).contains 'e' = (normalize s).contains 'e' := by
    have he : 'e' ∉ after := fun hmem => hafter.ne hmem (by decide) rfl
    simp [he]
  simp only [read?, normalize_append hs hafter, hexploding,
    Text.mapM_literal?_eq hparts.minima, Text.mapM_literal?_eq hparts.rerolls,
    Text.mapM_literal?_eq (Suffixes.padded_splitOn hparts.core)]

/-- Blanks in front of a token with a count do not change what it reads as. -/
theorem read?_blanks_append (sign : Sign) (hbefore : Text.IsBlanks before)
    (hs : ∀ c ∈ s, Text.isGlyph c = true) (hd : s.head? ≠ some 'd') :
    read? sign (before ++ s) = read? sign s := by
  have hboth := hbefore.isGlyph_append hs
  have hhead := head?_append_ne hbefore fun _ => hd
  have hexploding : (before ++ s).contains 'e' = s.contains 'e' := by
    have he : 'e' ∉ before := fun hmem => hbefore.ne hmem (by decide) rfl
    simp [he]
  have hscan := Suffixes.scan_false_append (Suffixes.letterless_of_isBlanks hbefore) s
  simp only [read?, normalize_of_isGlyph hs hd, normalize_of_isGlyph hboth hhead, hscan, hexploding,
    Suffixes.mapM_splitOn_blanks_append hbefore]

/-- Blanks in front of a token without a count make it unreadable. -/
theorem read?_blanks_append_d (sign : Sign) (hbefore : Text.IsBlanks before) (hne : before ≠ [])
    {rest : Text} (hs : ∀ c ∈ 'd' :: rest, Text.isGlyph c = true) :
    read? sign (before ++ 'd' :: rest) = none := by
  have hboth := hbefore.isGlyph_append hs
  have hhead := @head?_append_ne before ('d' :: rest) hbefore fun hnil => absurd hnil hne
  have hd : 'd' ∉ before := fun hmem => hbefore.ne hmem (by decide) rfl
  -- The blanks are what is left of the first number.
  have hmem : before ∈ (Suffixes.scan false (normalize (before ++ 'd' :: rest))).numbers := by
    rw [normalize_of_isGlyph hboth hhead, Suffixes.scan_append_d, Suffixes.scan_of_isBlanks hbefore,
      Suffixes.numbers, List.splitOn, List.splitOnP_append_cons _ _ (by simp)]
    refine List.mem_append_right _ (List.mem_append_left _ ?_)
    change before ∈ before.splitOn 'd'
    rw [List.splitOn_eq_singleton hd]
    exact List.mem_singleton_self before
  by_contra hsome
  obtain ⟨term, hterm⟩ := Option.ne_none_iff_exists'.mp hsome
  obtain ⟨n, hn⟩ := exists_literal?_of_read? hterm before hmem
  rw [Text.literal?_of_isBlanks hbefore] at hn
  cases hn

end Term

/-! ### Formulas with blanks -/

/-- A token with blanks in front of its text and behind it. -/
structure Spaced where
  token : Token
  before : Text := []
  after : Text := []
  isBlanks_before : Text.IsBlanks before := by decide
  isBlanks_after : Text.IsBlanks after := by decide

namespace Spaced

variable {item : Spaced}

/-- The sign of the token, and its text between blanks. -/
def write (item : Spaced) : Text :=
  item.token.sign.toChar :: (item.before ++ item.token.text ++ item.after)

/-- The token whose text includes the blanks. -/
def whole (item : Spaced) : Token :=
  ⟨item.token.sign, item.before ++ item.token.text ++ item.after⟩

theorem flatMap_write (items : List Spaced) :
    items.flatMap write = (items.map whole).flatMap Token.write := by
  rw [List.flatMap_map]
  rfl

theorem ofChar?_of_isBlank {c : Char} (h : Text.isBlank c = true) : Sign.ofChar? c = none := by
  refine Option.not_isSome_iff_eq_none.mp fun hsign => ?_
  rcases Sign.isSome_ofChar?_iff.mp hsign with rfl | rfl <;> exact absurd h (by decide)

/-- Blanks hold no sign, so none of them stands in a wrong place. -/
theorem signsAfterD_of_isBlanks {last : Char} {s : Text} (h : Text.IsBlanks s) :
    Token.SignsAfterD last s :=
  Token.signsAfterD_of_forall fun c hc => ofChar?_of_isBlank (h c hc)

/-- A token with blanks is closed by the next sign if the token is. -/
theorem closed_whole (h : Token.Closed item.token.text) : Token.Closed item.whole.text where
  ne_nil := by simp [whole, h.ne_nil]
  signsAfterD := by
    rw [whole, Token.signsAfterD_append, Token.signsAfterD_append]
    exact ⟨⟨signsAfterD_of_isBlanks item.isBlanks_before,
      Token.signsAfterD_mono (by simp) h.signsAfterD⟩,
      signsAfterD_of_isBlanks item.isBlanks_after⟩
  getLast?_ne := by
    intro hlast
    rw [whole, List.getLast?_append, Option.or_eq_some_iff] at hlast
    rcases hlast with hafter | ⟨-, htext⟩
    · exact item.isBlanks_after.ne (List.mem_of_getLast? hafter) (by decide) rfl
    · rw [List.getLast?_append_of_ne_nil _ h.ne_nil] at htext
      exact h.getLast?_ne htext

/-- Glyphs and signs are in lower case, blanks or not. -/
theorem isSettled_of_mem_write (hs : ∀ c ∈ item.token.text, Text.isGlyph c = true) :
    ∀ c ∈ item.write, Text.IsSettled c := by
  intro c hc
  rw [write, List.mem_cons, List.mem_append, List.mem_append] at hc
  rcases hc with rfl | (hbefore | htext) | hafter
  · cases item.token.sign <;> exact Text.isSettled_of_isPlain (by decide)
  · exact Text.isSettled_of_isGlyph (item.isBlanks_before.isGlyph c hbefore)
  · exact Text.isSettled_of_isGlyph (hs c htext)
  · exact Text.isSettled_of_isGlyph (item.isBlanks_after.isGlyph c hafter)

/-- Blanks do not change a token, unless they stand in front of a token without a count. -/
theorem read_whole (hs : ∀ c ∈ item.token.text, Text.isGlyph c = true)
    (h : item.token.text.head? = some 'd' → item.before = []) :
    Term.read? item.whole.sign item.whole.text = Term.read? item.token.sign item.token.text := by
  have hboth := item.isBlanks_before.isGlyph_append hs
  rw [whole, Term.read?_append_blanks _ hboth item.isBlanks_after]
  by_cases hd : item.token.text.head? = some 'd'
  · rw [h hd, List.nil_append]
  · exact Term.read?_blanks_append _ item.isBlanks_before hs hd

/-- Blanks in front of a token without a count make it unreadable. -/
theorem read_whole_eq_none (hs : ∀ c ∈ item.token.text, Text.isGlyph c = true)
    (hd : item.token.text.head? = some 'd') (hne : item.before ≠ []) :
    Term.read? item.whole.sign item.whole.text = none := by
  have hboth := item.isBlanks_before.isGlyph_append hs
  obtain ⟨rest, hrest⟩ := List.head?_eq_some_iff.mp hd
  rw [whole, Term.read?_append_blanks _ hboth item.isBlanks_after, hrest]
  exact Term.read?_blanks_append_d _ item.isBlanks_before hne (hrest ▸ hs)

end Spaced

namespace Formula

variable {written : Text} {formula : Formula} {items : List Spaced}

/-- A formula with blanks around its tokens has these tokens, blanks included. -/
theorem ofText_flatMap_write (h : parse written = .ok formula)
    (htokens : items.map Spaced.token = Token.ofText written) :
    Token.ofText (items.flatMap Spaced.write) = items.map Spaced.whole := by
  have hmem (item : Spaced) (hitem : item ∈ items) : item.token ∈ Token.ofText written :=
    htokens ▸ List.mem_map_of_mem hitem
  have hsettled : ∀ c ∈ items.flatMap Spaced.write, Text.IsSettled c := by
    intro c hc
    obtain ⟨item, hitem, hwrite⟩ := List.mem_flatMap.mp hc
    exact Spaced.isSettled_of_mem_write (isGlyph_of_mem_ofText h (hmem item hitem)) c hwrite
  have hne : items.map Spaced.whole ≠ [] := by
    have hwritten := Token.ofText_ne_nil written
    rw [← htokens, ne_eq, List.map_eq_nil_iff] at hwritten
    exact fun hnil => hwritten (List.map_eq_nil_iff.mp hnil)
  rw [Token.ofText, Text.lower_of_isSettled hsettled, Spaced.flatMap_write]
  refine Token.scan_nil_flatMap_write hne (List.forall_mem_map.mpr fun item hitem => ?_)
  exact Spaced.closed_whole (closed_of_mem_ofText h (hmem item hitem))

/-- A readable formula with blanks around the texts of its tokens reads alike exactly when no blank
stands in front of a token that leaves its count out. -/
theorem parse_spaced_iff (h : parse written = .ok formula)
    (htokens : items.map Spaced.token = Token.ofText written) :
    parse (items.flatMap Spaced.write) = .ok formula ↔
      ∀ item ∈ items, item.token.text.head? = some 'd' → item.before = [] := by
  have hmem (item : Spaced) (hitem : item ∈ items) : item.token ∈ Token.ofText written :=
    htokens ▸ List.mem_map_of_mem hitem
  have hglyph (item : Spaced) (hitem : item ∈ items) :=
    isGlyph_of_mem_ofText h (hmem item hitem)
  have htext := ofText_flatMap_write h htokens
  constructor
  · intro hparse item hitem hd
    by_contra hne
    obtain ⟨term, hterm⟩ := exists_read?_of_parse hparse item.whole
      (htext ▸ List.mem_map_of_mem hitem)
    rw [Spaced.read_whole_eq_none (hglyph item hitem) hd hne] at hterm
    cases hterm
  · intro hcount
    -- Each token is readable, so its term does not depend on the text that an error would name.
    have hread : ∀ item ∈ items, Term.read item.whole.sign item.whole.text =
        Term.read item.token.sign item.token.text := fun item hitem => by
      obtain ⟨term, hterm⟩ := exists_read?_of_parse h item.token (hmem item hitem)
      have hwhole := (Spaced.read_whole (hglyph item hitem) (hcount item hitem)).trans hterm
      rw [Term.read, hwhole, Term.read, hterm]
    rw [← h, parse, parse, htext, ← htokens, List.mapM_map, List.mapM_map]
    exact congrArg (· >>= _) (mapM_congr_left hread)

/-- A die without a count and a modifier, with blanks around the sign between them. -/
theorem parse_spaced_of_die_and_modifier :
    parse "+d20 + 5".toList = .ok ⟨[{ size := 20, signedCount := 1 }], [5]⟩ := by
  have hparse : parse "d20+5".toList = .ok ⟨[{ size := 20, signedCount := 1 }], [5]⟩ := by
    decide +kernel
  exact (@parse_spaced_iff _ _ [{ token := ⟨.plus, "d20".toList⟩, after := [' '] },
    { token := ⟨.plus, "5".toList⟩, before := [' '] }] hparse (by decide +kernel)).mpr (by simp)

/-- Blanks around tokens may make a readable formula unreadable: a blank in front of a die without
a count does. -/
theorem not_forall_parse_spaced :
    ¬ ∀ (written : Text) (formula : Formula) (items : List Spaced), parse written = .ok formula →
      items.map Spaced.token = Token.ofText written →
      parse (items.flatMap Spaced.write) = .ok formula := by
  intro h
  have hspaced := h "d20+d6".toList
    ⟨[{ size := 20, signedCount := 1 }, { size := 6, signedCount := 1 }], []⟩
    [{ token := ⟨.plus, "d20".toList⟩, after := [' '] },
      { token := ⟨.plus, "d6".toList⟩, before := [' '] }]
    (by decide +kernel) (by decide +kernel)
  revert hspaced
  decide +kernel

end Formula

end DiceRoll
