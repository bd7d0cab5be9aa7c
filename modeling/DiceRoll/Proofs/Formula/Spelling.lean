import DiceRoll.Proofs.Formula.Expressible
import DiceRoll.Proofs.Formula.Readable
import DiceRoll.Proofs.Text.Separated
import Mathlib

/-!
# Die sets with suffixes

Suffixes may stand behind any number of a token, in any order and any number of times. A suffix
number goes on through its literal and any letters e behind it, up to the next suffix or the next
letter d, so each literal is read as it is written and the numbers between the letters d stay as
they are. Dice explode if a letter e stands anywhere, every rerolled face counts, and of several
minima the last one does.
-/

namespace DiceRoll

/-! ### Literals and suffixes in writing -/

/-- A text that reads as an integer, and the integer. -/
structure Text.Literal where
  text : Text
  value : Int
  literal?_text : literal? text = some value
deriving DecidableEq

/-- The numeral of an integer that is short enough to be written. -/
def Text.Literal.ofInt (n : Int) (h : fits n = true) : Literal where
  text := Text.ofInt n
  value := n
  literal?_text := literal?_ofInt h

@[simp] theorem Text.Literal.text_ofInt (n : Int) (h : fits n = true) :
    (ofInt n h).text = Text.ofInt n := rfl

@[simp] theorem Text.Literal.value_ofInt (n : Int) (h : fits n = true) :
    (ofInt n h).value = n := rfl

/-- A suffix in writing. -/
inductive Suffix where
  | exploding
  | minimum (literal : Text.Literal)
  | reroll (literal : Text.Literal)
deriving DecidableEq

namespace Suffix

/-- The letter of a suffix, and its number if it has one. -/
def write : Suffix → Text
  | exploding => ['e']
  | minimum literal => 'm' :: literal.text
  | reroll literal => 'r' :: literal.text

/-- The number of a suffix that sets the minimum. -/
def minimum? : Suffix → Option Text.Literal
  | minimum literal => some literal
  | _ => none

/-- The number of a suffix that has a face drawn again. -/
def reroll? : Suffix → Option Text.Literal
  | reroll literal => some literal
  | _ => none

end Suffix

/-- A number with suffixes behind it. -/
structure Suffixed where
  number : Text.Literal
  suffixes : List Suffix := []

/-- The number, and then its suffixes. -/
def Suffixed.write (item : Suffixed) : Text :=
  item.number.text ++ item.suffixes.flatMap Suffix.write

/-- Numbers with suffixes, between letters d. -/
def Suffixed.join (items : List Suffixed) : Text :=
  ['d'].intercalate (items.map Suffixed.write)

/-! ### Taking suffixes out -/

namespace Suffixes

theorem letterless_text (literal : Text.Literal) : Letterless literal.text := fun c hc => by
  have hne := @Text.ne_of_mem_literal _ _ literal.literal?_text c
  exact ⟨hne hc (by decide) (by decide) (by decide), hne hc (by decide) (by decide) (by decide),
    hne hc (by decide) (by decide) (by decide), hne hc (by decide) (by decide) (by decide)⟩

/-- Suffixes belong to no number in front of them. -/
theorem number_flatMap_write (suffixes : List Suffix) :
    number (suffixes.flatMap Suffix.write) = [] := by
  induction suffixes with
  | nil => rfl
  | cons first rest ih =>
    cases first with
    | exploding => rwa [List.flatMap_cons, Suffix.write, List.singleton_append,
        number_cons (by decide) (by decide) (by decide), if_pos rfl]
    | minimum literal => exact number_cons_of_endsNumber (by decide) _
    | reroll literal => exact number_cons_of_endsNumber (by decide) _

/-- Suffixes are taken out one by one, whether they stand behind a number or behind a suffix. -/
theorem scan_flatMap_write (inNumber : Bool) (suffixes : List Suffix) :
    scan inNumber (suffixes.flatMap Suffix.write) = {
      minima := (suffixes.filterMap Suffix.minimum?).map (·.text)
      rerolls := (suffixes.filterMap Suffix.reroll?).map (·.text) } := by
  induction suffixes generalizing inNumber with
  | nil => rfl
  | cons first rest ih =>
    rw [List.flatMap_cons]
    cases first with
    | exploding =>
      have hskip : scan inNumber ('e' :: rest.flatMap Suffix.write) =
          scan inNumber (rest.flatMap Suffix.write) := by simp [scan]
      exact hskip.trans (ih inNumber)
    | minimum literal =>
      rw [Suffix.write, List.cons_append, scan, if_pos rfl, number_append (letterless_text literal),
        scan_true_append (letterless_text literal), number_flatMap_write, ih, List.append_nil]
      rfl
    | reroll literal =>
      rw [Suffix.write, List.cons_append, scan, if_neg (by decide), if_pos rfl,
        number_append (letterless_text literal), scan_true_append (letterless_text literal),
        number_flatMap_write, ih, List.append_nil]
      rfl

/-- A number with suffixes behind it is taken apart. -/
theorem scan_suffixed (item : Suffixed) :
    scan false item.write = {
      core := item.number.text
      minima := (item.suffixes.filterMap Suffix.minimum?).map (·.text)
      rerolls := (item.suffixes.filterMap Suffix.reroll?).map (·.text) } := by
  rw [Suffixed.write, scan_false_append (letterless_text item.number), scan_flatMap_write,
    List.append_nil]

/-- Numbers between letters d are taken apart one by one. -/
theorem scan_join {items : List Suffixed} (hne : items ≠ []) :
    scan false (Suffixed.join items) = {
      core := ['d'].intercalate (items.map (·.number.text))
      minima := ((items.flatMap (·.suffixes)).filterMap Suffix.minimum?).map (·.text)
      rerolls := ((items.flatMap (·.suffixes)).filterMap Suffix.reroll?).map (·.text) } := by
  obtain ⟨first, rest, rfl⟩ := List.exists_cons_of_ne_nil hne
  clear hne
  rw [Suffixed.join]
  induction rest generalizing first with
  | nil => simpa using scan_suffixed first
  | cons second rest ih =>
    rw [List.map_cons, List.map_cons, List.intercalate_cons_cons, List.append_assoc,
      List.singleton_append, scan_append_d, scan_suffixed, ← List.map_cons, ih]
    simp

end Suffixes

/-! ### Reading what is left -/

namespace Text

theorem mapM_literal?_text (literals : List Literal) :
    (literals.map (·.text)).mapM literal? = some (literals.map (·.value)) := by
  rw [mapM_eq_some_iff, List.forall₂_map_left_iff, List.forall₂_map_right_iff]
  exact List.forall₂_same.mpr fun literal _ => literal.literal?_text

theorem Literal.isGlyph (literal : Literal) : ∀ c ∈ literal.text, isGlyph c = true :=
  isGlyph_of_literal? literal.literal?_text

theorem Literal.ne_nil (literal : Literal) : literal.text ≠ [] := by
  intro hnil
  have hread := literal.literal?_text
  rw [hnil, literal?_nil] at hread
  cases hread

end Text

namespace Suffixed

theorem isGlyph_write (item : Suffixed) : ∀ c ∈ item.write, Text.isGlyph c = true := by
  refine List.forall_mem_append.mpr ⟨item.number.isGlyph, fun c hc => ?_⟩
  obtain ⟨suffix, -, hc⟩ := List.mem_flatMap.mp hc
  cases suffix with
  | exploding =>
    obtain rfl := List.mem_singleton.mp hc
    decide
  | minimum literal => exact List.forall_mem_cons.mpr ⟨by decide, literal.isGlyph⟩ c hc
  | reroll literal => exact List.forall_mem_cons.mpr ⟨by decide, literal.isGlyph⟩ c hc

theorem write_ne_nil (item : Suffixed) : item.write ≠ [] :=
  List.append_ne_nil_of_left_ne_nil item.number.ne_nil _

/-- A number with suffixes begins with its literal. -/
theorem head?_write_ne (item : Suffixed) : item.write.head? ≠ some 'd' := by
  intro hhead
  rw [write, List.head?_append_of_ne_nil _ item.number.ne_nil] at hhead
  exact (Suffixes.letterless_text item.number _ (List.mem_of_head? hhead)).2.2.2 rfl

/-- The letter e stands in no number, so it stands for exploding dice. -/
theorem mem_write_iff {item : Suffixed} : 'e' ∈ item.write ↔ Suffix.exploding ∈ item.suffixes := by
  have hnumber (literal : Text.Literal) : 'e' ∉ literal.text := fun hmem =>
    (Suffixes.letterless_text literal _ hmem).2.2.1 rfl
  rw [write, List.mem_append, or_iff_right (hnumber item.number), List.mem_flatMap]
  constructor
  · rintro ⟨suffix, hsuffix, hmem⟩
    cases suffix with
    | exploding => exact hsuffix
    | minimum literal => simp [Suffix.write, hnumber] at hmem
    | reroll literal => simp [Suffix.write, hnumber] at hmem
  · intro h
    exact ⟨.exploding, h, List.mem_singleton_self 'e'⟩

/-- What is joined holds the characters of its parts, and letters d. -/
theorem mem_join_iff {items : List Suffixed} {c : Char} (hd : c ≠ 'd') :
    c ∈ join items ↔ ∃ item ∈ items, c ∈ item.write := by
  cases items with
  | nil => simp [join]
  | cons first rest =>
    rw [join, List.map_cons, Text.intercalate_cons, List.mem_append, List.mem_flatMap,
      List.exists_mem_cons_iff]
    simp [hd]

theorem isGlyph_join (items : List Suffixed) : ∀ c ∈ join items, Text.isGlyph c = true := by
  intro c hc
  by_cases hd : c = 'd'
  · subst hd
    decide
  · obtain ⟨item, -, hmem⟩ := (mem_join_iff hd).mp hc
    exact item.isGlyph_write c hmem

theorem contains_join (items : List Suffixed) :
    (join items).contains 'e' = decide (Suffix.exploding ∈ items.flatMap (·.suffixes)) := by
  rw [Bool.eq_iff_iff, List.contains_iff_mem, decide_eq_true_iff, mem_join_iff (by decide),
    List.mem_flatMap]
  simp only [mem_write_iff]

/-- The numbers between letters d are read. -/
theorem mapM_splitOn {items : List Suffixed} (hne : items ≠ []) :
    ((['d'].intercalate (items.map (·.number.text))).splitOn 'd').mapM Text.literal? =
      some (items.map (·.number.value)) := by
  have hd : ∀ text ∈ items.map (·.number.text), 'd' ∉ text := by
    intro text htext hmem
    obtain ⟨item, -, rfl⟩ := List.mem_map.mp htext
    exact (Suffixes.letterless_text item.number _ hmem).2.2.2 rfl
  rw [List.splitOn_intercalate 'd' hd (by simpa using hne)]
  have hread := Text.mapM_literal?_text (items.map (·.number))
  rwa [List.map_map, List.map_map] at hread

/-- A number without a letter d is a modifier, whatever suffixes stand behind it. -/
theorem read?_write (sign : Sign) (item : Suffixed) :
    Term.read? sign item.write = some (.modifier (sign.apply item.number.value)) := by
  have hnormal : Term.normalize item.write = join [item] :=
    (Term.normalize_of_isGlyph item.isGlyph_write item.head?_write_ne).trans (by simp [join])
  have hne : [item] ≠ [] := List.cons_ne_nil _ _
  simp only [Term.read?, hnormal, Suffixes.scan_join hne, Text.mapM_literal?_text,
    mapM_splitOn hne, Option.bind_eq_bind, Option.bind_some]
  rfl

end Suffixed

/-! ### Die sets in writing -/

/-- A die set in writing: its count, its size and its drop rule, each with suffixes behind it. The
count and the drop rule may be left out. -/
structure Spelling where
  count : Option Suffixed := none
  size : Suffixed
  drop : Option Suffixed := none

namespace Spelling

def write (spelling : Spelling) : Text :=
  spelling.count.elim [] Suffixed.write ++
    'd' :: (spelling.size.write ++ spelling.drop.elim [] fun drop => 'd' :: drop.write)

/-- All suffixes, in written order. -/
def suffixes (spelling : Spelling) : List Suffix :=
  spelling.count.elim [] (·.suffixes) ++ spelling.size.suffixes ++
    spelling.drop.elim [] (·.suffixes)

/-- The number of dice; there is one if the count is left out. -/
def dice (spelling : Spelling) : Int :=
  spelling.count.elim 1 (·.number.value)

/-- The die set that is written. -/
def set (spelling : Spelling) (sign : Sign) : DieSet where
  size := spelling.size.number.value
  signedCount := sign.apply spelling.dice
  drop := spelling.drop.elim 0 (·.number.value)
  exploding := Suffix.exploding ∈ spelling.suffixes
  rerolled := Faces.ofList ((spelling.suffixes.filterMap Suffix.reroll?).map (·.value))
  minimum := ((spelling.suffixes.filterMap Suffix.minimum?).map (·.value)).getLast?.getD 0

/-- The numbers of a written die set with the suffixes behind them, and a count of one if it is left
out. -/
def items (spelling : Spelling) : List Suffixed :=
  spelling.count.getD { number := ⟨['1'], 1, by decide⟩ } :: spelling.size :: spelling.drop.toList

variable {spelling : Spelling} {sign : Sign}

theorem suffixes_items (spelling : Spelling) :
    spelling.items.flatMap (·.suffixes) = spelling.suffixes := by
  rcases spelling with ⟨_ | count, size, _ | drop⟩ <;> simp [items, suffixes]

/-- What is written for a count that is left out is taken for a count of one. -/
theorem normalize_write (spelling : Spelling) :
    Term.normalize spelling.write = Suffixed.join spelling.items := by
  have hglyph := Suffixed.isGlyph_join spelling.items
  rcases spelling with ⟨_ | count, size, drop⟩
  · have hjoin : Suffixed.join (Spelling.items { count := none, size, drop }) =
        '1' :: (Spelling.write { count := none, size, drop }) := by
      cases drop <;> simp [Suffixed.join, items, write, Suffixed.write]
    rw [hjoin] at hglyph ⊢
    exact Term.normalize_cons_d (List.forall_mem_cons.mp hglyph).2
  · have hjoin : Suffixed.join (Spelling.items { count := some count, size, drop }) =
        Spelling.write { count := some count, size, drop } := by
      cases drop <;> simp [Suffixed.join, items, write]
    rw [hjoin] at hglyph ⊢
    refine Term.normalize_of_isGlyph hglyph ?_
    rw [write, Option.elim_some, List.head?_append_of_ne_nil _ count.write_ne_nil]
    exact count.head?_write_ne

theorem values_items (spelling : Spelling) :
    spelling.items.map (·.number.value) =
      spelling.dice :: spelling.size.number.value ::
        spelling.drop.toList.map (·.number.value) := by
  rcases spelling with ⟨_ | count, size, drop⟩ <;> rfl

/-- A written die set is read, unless it has no dice or no faces. -/
theorem read?_write (sign : Sign) (spelling : Spelling) :
    Term.read? sign spelling.write =
      if spelling.dice ≠ 0 ∧ 1 ≤ spelling.size.number.value then some (.dice (spelling.set sign))
      else none := by
  have hne : spelling.items ≠ [] := List.cons_ne_nil _ _
  simp only [Term.read?, normalize_write, Suffixed.contains_join, Suffixes.scan_join hne,
    suffixes_items, Text.mapM_literal?_text, Suffixed.mapM_splitOn hne, values_items,
    Option.bind_eq_bind, Option.bind_some]
  rcases spelling with ⟨count, size, _ | drop⟩
  · simp [Term.dice?, set]
  · simp [Term.dice?, set]

/-- A written die set reads as the set exactly when it has dice and faces. -/
theorem read_write_iff (sign : Sign) (spelling : Spelling) :
    Term.read sign spelling.write = .ok (.dice (spelling.set sign)) ↔
      spelling.dice ≠ 0 ∧ 1 ≤ spelling.size.number.value := by
  rw [Term.read, read?_write]
  by_cases h : spelling.dice ≠ 0 ∧ 1 ≤ spelling.size.number.value <;> simp [h]

example : Term.read .minus "2er1d6m-2 d 1m3".toList = .ok (.dice {
    size := 6, signedCount := -2, drop := 1, exploding := true
    rerolled := Faces.ofList [1], minimum := 3 }) := by
  decide +kernel

end Spelling

end DiceRoll
