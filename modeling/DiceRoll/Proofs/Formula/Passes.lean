import DiceRoll.Proofs.Formula.Expressible
import DiceRoll.Proofs.Formula.Readable

/-!
# Reading tokens in passes

A token can be read in several passes over its text: the letter e is deleted, then each letter m is
taken out with the number behind it, and then each letter r. What is left is split at the letters d.
Taking a suffix out closes the gap in front of what ends its number, so it glues nothing to another
number, and the passes come to the same as the one scan that reads tokens.
-/

namespace DiceRoll

namespace Suffixes

/-! ### The passes -/

/-- Takes the leftmost mark out of a text with the number behind it, which goes on to the next
character that ends it, and gives the number and the rest. -/
def takeOut? (mark : Char) (ends : List Char) (s : Text) : Option (Text × Text) :=
  match s.span (· ≠ mark) with
  | (_, []) => none
  | (before, _ :: after) =>
    some (after.takeWhile (· ∉ ends), before ++ after.dropWhile (· ∉ ends))

/-- A text with a mark taken out is the text around it. -/
theorem eq_of_takeOut? {mark : Char} {ends : List Char} {s number rest : Text}
    (h : takeOut? mark ends s = some (number, rest)) :
    ∃ before after, mark ∉ before ∧ s = before ++ mark :: after ∧
      number = after.takeWhile (· ∉ ends) ∧ rest = before ++ after.dropWhile (· ∉ ends) := by
  rw [takeOut?] at h
  split at h
  · cases h
  · rename_i before c after heq
    obtain ⟨rfl, hbefore, hsplit⟩ := span_ne_eq_cons_iff.mp heq
    cases h
    exact ⟨before, after, hbefore, hsplit, rfl, rfl⟩

theorem not_mem_of_takeOut? {mark : Char} {ends : List Char} {s : Text}
    (h : takeOut? mark ends s = none) : mark ∉ s := by
  rw [takeOut?] at h
  split at h
  · rename_i heq
    exact (span_ne_eq_nil_iff.mp heq).1
  · cases h

/-- Taking a mark out leaves fewer characters. -/
theorem length_lt_of_takeOut? {mark : Char} {ends : List Char} {s number rest : Text}
    (h : takeOut? mark ends s = some (number, rest)) : rest.length < s.length := by
  obtain ⟨before, after, -, rfl, -, rfl⟩ := eq_of_takeOut? h
  have := (List.dropWhile_suffix (l := after) (· ∉ ends)).length_le
  simp only [List.length_append, List.length_cons]
  omega

/-- Takes marks out as long as there are any, and gives their numbers, the leftmost first, and the
rest. -/
def takeOutAll (mark : Char) (ends : List Char) (s : Text) : List Text × Text :=
  match _h : takeOut? mark ends s with
  | none => ([], s)
  | some (number, rest) =>
    let (numbers, left) := takeOutAll mark ends rest
    (number :: numbers, left)
termination_by s.length
decreasing_by exact length_lt_of_takeOut? ‹_›

/-- Takes a token apart in passes: it deletes the letter e, and then takes out the letters m and
then the letters r with their numbers. -/
def inPasses (text : Text) : Suffixes :=
  let (minima, rest) := takeOutAll 'm' ['r', 'd', 'm'] (text.filter (· ≠ 'e'))
  let (rerolls, core) := takeOutAll 'r' ['r', 'd'] rest
  { core, minima, rerolls }

end Suffixes

/-- Reads a token text under a sign, in passes. -/
def Term.readInPasses (sign : Sign) (s : Text) : Except Malformed Term :=
  let lowered := Text.lower s
  let text := if lowered.head? = some 'd' then '1' :: lowered else lowered
  let parts := Suffixes.inPasses text
  match parts.minima.mapM Text.literal?, parts.rerolls.mapM Text.literal?,
      (parts.core.splitOn 'd').mapM Text.literal? with
  | some _, some _, some [value] => .ok (.modifier (sign.apply value))
  | some minima, some rerolls, some (count :: size :: drops) =>
    if drops.length ≤ 1 ∧ count ≠ 0 ∧ 1 ≤ size then
      .ok (.dice {
        size
        signedCount := sign.apply count
        drop := drops.headD 0
        exploding := 'e' ∈ text
        rerolled := Faces.ofList rerolls
        minimum := minima.getLastD 0 })
    else .error ⟨s⟩
  | _, _, _ => .error ⟨s⟩

namespace Suffixes

/-! ### What the letter e does -/

/-- The number of a suffix does not depend on the letters e in it. -/
theorem number_filter (s : Text) : number (s.filter (· ≠ 'e')) = number s := by
  induction s with
  | nil => rfl
  | cons c rest ih =>
    by_cases hends : endsNumber c = true
    · have he : c ≠ 'e' := by
        rintro rfl
        exact absurd hends (by decide)
      rw [List.filter_cons_of_pos (by simpa using he), number_cons_of_endsNumber hends,
        number_cons_of_endsNumber hends]
    · rw [number_cons_of_not_endsNumber hends]
      by_cases he : c = 'e'
      · rw [List.filter_cons_of_neg (by simpa using he), ih, if_pos he]
      · rw [List.filter_cons_of_pos (by simpa using he), number_cons_of_not_endsNumber hends, ih]

/-- A token is taken apart as it is without its letters e. -/
theorem scan_filter (inNumber : Bool) (s : Text) :
    scan inNumber (s.filter (· ≠ 'e')) = scan inNumber s := by
  fun_induction scan inNumber s with
  | case1 => rfl
  | case2 inNumber rest parts ih =>
    rw [List.filter_cons_of_pos (by decide), scan, if_pos rfl, ih, number_filter]
  | case3 inNumber rest parts _ ih =>
    rw [List.filter_cons_of_pos (by decide), scan, if_neg (by decide), if_pos rfl, ih,
      number_filter]
  | case4 inNumber rest parts _ _ ih =>
    rw [List.filter_cons_of_pos (by decide), scan, if_neg (by decide), if_neg (by decide),
      if_pos rfl, ih]
  | case5 inNumber c rest hm hr hd hskip ih =>
    by_cases he : c = 'e'
    · rw [List.filter_cons_of_neg (by simpa using he), ih]
    · rw [List.filter_cons_of_pos (by simpa using he), scan, if_neg hm, if_neg hr, if_neg hd,
        if_pos hskip, ih]
  | case6 inNumber c rest hm hr hd hskip parts ih =>
    have he : c ≠ 'e' := by
      rintro rfl
      simp at hskip
    rw [List.filter_cons_of_pos (by simpa using he), scan, if_neg hm, if_neg hr, if_neg hd,
      if_neg hskip, ih]

/-! ### What a pass does -/

/-- The parts of a token with one more suffix in front. -/
def addSuffix (mark : Char) (number : Text) (parts : Suffixes) : Suffixes :=
  if mark = 'm' then { parts with minima := number :: parts.minima }
  else { parts with rerolls := number :: parts.rerolls }

/-- Where a number ends, it does not matter whether one was begun. -/
theorem scan_of_endsNumber {s : Text} (h : EndsNumber s) (inNumber other : Bool) :
    scan inNumber s = scan other s := by
  cases s with
  | nil => rfl
  | cons c rest =>
    have hends := h c rfl
    simp only [endsNumber, Bool.or_eq_true, beq_iff_eq] at hends
    rw [scan, scan]
    rcases hends with (rfl | rfl) | rfl <;> simp

theorem endsNumber_dropWhile (s : Text) : EndsNumber (s.dropWhile (!endsNumber ·)) := by
  intro c hc
  have hhead := List.head?_dropWhile_not (!endsNumber ·) s
  rw [Option.mem_def.mp hc] at hhead
  simpa using hhead

/-- The number of a suffix is passed over. -/
theorem scan_true_eq (inNumber : Bool) (s : Text) :
    scan true s = scan inNumber (s.dropWhile (!endsNumber ·)) := by
  rw [scan_of_endsNumber (endsNumber_dropWhile s) inNumber true]
  induction s with
  | nil => rfl
  | cons c rest ih =>
    by_cases hends : endsNumber c = true
    · rw [List.dropWhile_cons_of_neg (by simp [hends])]
    · rw [List.dropWhile_cons_of_pos (by simpa using hends), ← ih]
      simp only [endsNumber, Bool.or_eq_true, beq_iff_eq, not_or] at hends
      rw [scan]
      simp [hends]

/-- The leftmost suffix of a kind can be taken out before the others. -/
theorem scan_append_mark {mark : Char} (hmark : mark = 'm' ∨ mark = 'r') (inNumber : Bool)
    {before : Text} (h : mark ∉ before) (after : Text) :
    scan inNumber (before ++ mark :: after) =
      addSuffix mark (number after)
        (scan inNumber (before ++ after.dropWhile (!endsNumber ·))) := by
  induction before generalizing inNumber with
  | nil =>
    rw [List.nil_append, List.nil_append, ← scan_true_eq, scan]
    rcases hmark with rfl | rfl <;> rfl
  | cons c rest ih =>
    rw [List.mem_cons, not_or] at h
    have hends : EndsNumber (mark :: after) := by
      rcases hmark with rfl | rfl <;> simp [EndsNumber, endsNumber]
    -- Numbers in front of the mark end at it, and so they do where it was taken out.
    have hnumber : number (rest ++ mark :: after) =
        number (rest ++ after.dropWhile (!endsNumber ·)) := by
      rw [number_append_of_endsNumber rest hends,
        number_append_of_endsNumber rest (endsNumber_dropWhile after)]
    rw [List.cons_append, List.cons_append, scan, scan, ih _ h.2, ih _ h.2, ih _ h.2, hnumber]
    rcases hmark with rfl | rfl
    · simp only [Ne.symm h.1, if_false]
      split_ifs <;> rfl
    · simp only [Ne.symm h.1, if_false]
      split_ifs <;> rfl

/-- Suffixes of one kind in front of the parts of a token. -/
theorem foldr_addSuffix (numbers : List Text) (parts : Suffixes) :
    numbers.foldr (addSuffix 'm') parts = { parts with minima := numbers ++ parts.minima } ∧
      numbers.foldr (addSuffix 'r') parts = { parts with rerolls := numbers ++ parts.rerolls } := by
  induction numbers with
  | nil => exact ⟨rfl, rfl⟩
  | cons first rest ih =>
    rw [List.foldr_cons, List.foldr_cons, ih.1, ih.2]
    exact ⟨rfl, rfl⟩

/-- Taking a mark out brings no character in. -/
theorem subset_of_takeOut? {mark : Char} {ends : List Char} {s number rest : Text}
    (h : takeOut? mark ends s = some (number, rest)) : rest ⊆ s := by
  obtain ⟨before, after, -, rfl, -, rfl⟩ := eq_of_takeOut? h
  intro c hc
  rcases List.mem_append.mp hc with hbefore | hafter
  · exact List.mem_append_left _ hbefore
  · exact List.mem_append_right _
      (List.mem_cons_of_mem _ ((List.dropWhile_sublist _).subset hafter))

/-- A pass leaves no mark behind and brings no character in. -/
theorem not_mem_and_subset_takeOutAll (mark : Char) (ends : List Char) (s : Text) :
    mark ∉ (takeOutAll mark ends s).2 ∧ (takeOutAll mark ends s).2 ⊆ s := by
  fun_induction takeOutAll mark ends s with
  | case1 s hnone => exact ⟨not_mem_of_takeOut? hnone, List.Subset.refl s⟩
  | case2 s number rest hsome numbers left heq ih =>
    rw [heq] at ih
    exact ⟨ih.1, List.Subset.trans ih.2 (subset_of_takeOut? hsome)⟩

/-- A pass takes the suffixes of one kind out of a token. -/
theorem scan_eq_foldr_takeOutAll {mark : Char} (hmark : mark = 'm' ∨ mark = 'r')
    {ends : List Char} {s : Text} (hends : ∀ c ∈ s, c ∈ ends ↔ endsNumber c = true) (he : 'e' ∉ s)
    (inNumber : Bool) :
    scan inNumber s =
      (takeOutAll mark ends s).1.foldr (addSuffix mark)
        (scan inNumber (takeOutAll mark ends s).2) := by
  fun_induction takeOutAll mark ends s with
  | case1 s hnone => rfl
  | case2 s number rest hsome numbers left heq ih =>
    have hrest := ih (fun c hc => hends c (subset_of_takeOut? hsome hc))
      fun hmem => he (subset_of_takeOut? hsome hmem)
    rw [heq] at hrest
    obtain ⟨before, after, hbefore, rfl, rfl, rfl⟩ := eq_of_takeOut? hsome
    have hafter : ∀ c ∈ after, c ∈ before ++ mark :: after := fun c hc =>
      List.mem_append_right _ (List.mem_cons_of_mem _ hc)
    have hagree : ∀ c ∈ after, decide (c ∉ ends) = !endsNumber c := fun c hc => by
      simp [hends c (hafter c hc)]
    obtain ⟨htake, hdrop⟩ := takeWhile_and_dropWhile_congr hagree
    have hnumber : Suffixes.number after = after.takeWhile (· ∉ ends) := by
      rw [Suffixes.number, htake, List.filter_eq_self]
      intro c hc
      have hne : c ≠ 'e' := fun heq =>
        he (heq ▸ hafter c ((List.takeWhile_sublist _).subset hc))
      simpa using hne
    rw [scan_append_mark hmark inNumber hbefore, hnumber, ← hdrop, hrest, List.foldr_cons]

/-- A text without suffixes is all core. -/
theorem scan_of_not_mem {core : Text} (hm : 'm' ∉ core) (hr : 'r' ∉ core) (he : 'e' ∉ core) :
    scan false core = { core } := by
  have hscan := @scan_append_core core [] fun c hc =>
    ⟨fun heq => hm (heq ▸ hc), fun heq => hr (heq ▸ hc), fun heq => he (heq ▸ hc)⟩
  simpa [scan] using hscan

/-- The passes take a token apart as the scan does. -/
theorem scan_eq_inPasses (text : Text) : scan false text = inPasses text := by
  let first := takeOutAll 'm' ['r', 'd', 'm'] (text.filter (· ≠ 'e'))
  let second := takeOutAll 'r' ['r', 'd'] first.2
  have he : 'e' ∉ text.filter (· ≠ 'e') := by simp
  obtain ⟨hm, hfirst⟩ : 'm' ∉ first.2 ∧ first.2 ⊆ text.filter (· ≠ 'e') :=
    not_mem_and_subset_takeOutAll _ _ _
  obtain ⟨hr, hsecond⟩ : 'r' ∉ second.2 ∧ second.2 ⊆ first.2 :=
    not_mem_and_subset_takeOutAll _ _ _
  have hends : ∀ c ∈ text.filter (· ≠ 'e'), c ∈ ['r', 'd', 'm'] ↔ endsNumber c = true :=
    fun c _ => by simp [endsNumber, or_assoc]
  -- Once no letter m is left, the letters r and d alone end the number of a letter r.
  have hends' : ∀ c ∈ first.2, c ∈ ['r', 'd'] ↔ endsNumber c = true := fun c hc => by
    have hne : c ≠ 'm' := fun heq => hm (heq ▸ hc)
    simp [endsNumber, hne]
  calc
    scan false text = scan false (text.filter (· ≠ 'e')) := (scan_filter false text).symm
    _ = first.1.foldr (addSuffix 'm') (scan false first.2) :=
      scan_eq_foldr_takeOutAll (.inl rfl) hends he false
    _ = first.1.foldr (addSuffix 'm')
        (second.1.foldr (addSuffix 'r') (scan false second.2)) := by
      rw [scan_eq_foldr_takeOutAll (.inr rfl) hends' (fun hmem => he (hfirst hmem)) false]
    _ = first.1.foldr (addSuffix 'm') (second.1.foldr (addSuffix 'r') { core := second.2 }) := by
      rw [scan_of_not_mem (fun hmem => hm (hsecond hmem)) hr
        (fun hmem => he (hfirst (hsecond hmem)))]
    _ = inPasses text := by
      rw [(foldr_addSuffix _ _).2, (foldr_addSuffix _ _).1, List.append_nil, List.append_nil]
      rfl

end Suffixes

namespace Term

theorem normalize_eq (s : Text) :
    normalize s =
      if (Text.lower s).head? = some 'd' then '1' :: Text.lower s else Text.lower s := by
  unfold normalize
  split
  · rename_i rest heq
    simp [heq]
  · rename_i hne
    split
    · rename_i hd
      obtain ⟨rest, hrest⟩ := List.head?_eq_some_iff.mp hd
      exact absurd hrest (hne rest)
    · rfl

theorem read_eq_elim (sign : Sign) (s : Text) :
    read sign s = (read? sign s).elim (.error ⟨s⟩) .ok := by
  rw [read]
  cases read? sign s <;> rfl

/-- A die set is read unless it has no dice or no faces. -/
theorem elim_dice? (sign : Sign) (s : Text) (count size drop minimum : Int) (exploding : Bool)
    (rerolled : List Int) :
    (dice? (sign.apply count) size drop minimum exploding rerolled).elim (.error ⟨s⟩) .ok =
      if count ≠ 0 ∧ 1 ≤ size then
        (.ok (.dice {
          size, drop, exploding, minimum
          signedCount := sign.apply count
          rerolled := Faces.ofList rerolled }) : Except Malformed Term)
      else .error ⟨s⟩ := by
  simp only [dice?, ne_eq, Sign.apply_eq_zero_iff]
  split <;> rfl

/-- Reading a token in one scan and reading it in passes give the same term, or fail alike. -/
theorem read_eq_readInPasses (sign : Sign) (s : Text) : read sign s = readInPasses sign s := by
  rw [read_eq_elim, readInPasses, read?]
  simp only [normalize_eq, Suffixes.scan_eq_inPasses]
  generalize (if (Text.lower s).head? = some 'd' then '1' :: Text.lower s else Text.lower s) = text
  generalize Suffixes.inPasses text = parts
  -- Every number has to be read, and how many of them stand between letters d decides the term.
  cases parts.minima.mapM Text.literal? with
  | none => rfl
  | some minima =>
    cases parts.rerolls.mapM Text.literal? with
    | none => rfl
    | some rerolls =>
      cases (parts.core.splitOn 'd').mapM Text.literal? with
      | none => rfl
      | some numbers =>
        rcases numbers with _ | ⟨count, _ | ⟨size, _ | ⟨drop, _ | ⟨more, rest⟩⟩⟩⟩
        · rfl
        · rfl
        · simpa using elim_dice? sign s count size 0 (minima.getLast?.getD 0) (text.contains 'e')
            rerolls
        · simpa using elim_dice? sign s count size drop (minima.getLast?.getD 0)
            (text.contains 'e') rerolls
        · simp

end Term

end DiceRoll
