import DiceRoll.Fault
import DiceRoll.Formula.Basic
import DiceRoll.Formula.Token

/-!
# Reading terms

A token reads as a modifier or a die set. Suffixes may stand anywhere after the first number: the
letter e makes dice explode, the letters m and r take a number, and what is left once they are
taken out is one to three numbers between the letters d. The number of a suffix ends before the
next letter r, d or m, and the letter e inside it is skipped.
-/

namespace DiceRoll

/-- A token taken apart: its suffix numbers in written order, and what is left without them. -/
structure Suffixes where
  core : Text := []
  minima : List Text := []
  rerolls : List Text := []
deriving DecidableEq, Repr

namespace Suffixes

/-- Whether a character ends the number of a suffix. -/
def endsNumber (c : Char) : Bool :=
  c == 'r' || c == 'd' || c == 'm'

/-- The number of a suffix, written at the start of a text. -/
def number (s : Text) : Text :=
  (s.takeWhile fun c => !endsNumber c).filter (· ≠ 'e')

/-- Takes a token apart; `inNumber` says whether the text begins inside a suffix number. -/
def scan (inNumber : Bool) : Text → Suffixes
  | [] => {}
  | c :: rest =>
    if c = 'm' then
      let parts := scan true rest
      { parts with minima := number rest :: parts.minima }
    else if c = 'r' then
      let parts := scan true rest
      { parts with rerolls := number rest :: parts.rerolls }
    else if c = 'd' then
      let parts := scan false rest
      { parts with core := c :: parts.core }
    else if inNumber || c == 'e' then scan inNumber rest
    else
      let parts := scan false rest
      { parts with core := c :: parts.core }

end Suffixes

namespace Term

/-- A token text in lower case, with the count that a leading letter d leaves out. -/
def normalize (s : Text) : Text :=
  match Text.lower s with
  | 'd' :: rest => '1' :: 'd' :: rest
  | lowered => lowered

/-- The die set with the given numbers, unless it has no dice or no faces. -/
def dice? (count size drop minimum : Int) (exploding : Bool) (rerolled : List Int) : Option Term :=
  if count ≠ 0 ∧ 1 ≤ size then
    some (.dice {
      size, drop, exploding, minimum
      signedCount := count
      rerolled := Faces.ofList rerolled })
  else none

/-- The term that a token text stands for under a sign, if it stands for one. -/
def read? (sign : Sign) (s : Text) : Option Term := do
  let text := normalize s
  let parts := Suffixes.scan false text
  let minima ← parts.minima.mapM Text.literal?
  let rerolls ← parts.rerolls.mapM Text.literal?
  let numbers ← (parts.core.splitOn 'd').mapM Text.literal?
  let dice (count size drop : Int) :=
    dice? (sign.apply count) size drop (minima.getLast?.getD 0) (text.contains 'e') rerolls
  match numbers with
  | [value] => some (.modifier (sign.apply value))
  | [count, size] => dice count size 0
  | [count, size, drop] => dice count size drop
  | _ => none

/-- Reads a token text under a sign. -/
def read (sign : Sign) (s : Text) : Except Malformed Term :=
  match read? sign s with
  | some term => .ok term
  | none => .error ⟨s⟩

section

variable {sign : Sign} {s : Text} {term : Term}

theorem read_eq_ok_iff : read sign s = .ok term ↔ read? sign s = some term := by
  cases h : read? sign s <;> simp [read, h]

theorem dice?_eq_some_iff {count size drop minimum : Int} {exploding : Bool}
    {rerolled : List Int} :
    dice? count size drop minimum exploding rerolled = some term ↔
      (count ≠ 0 ∧ 1 ≤ size) ∧ .dice {
        size, drop, exploding, minimum
        signedCount := count
        rerolled := Faces.ofList rerolled } = term := by
  simp only [dice?, Option.ite_none_right_eq_some, Option.some.injEq]

/-- Whether the numbers that a token is taken apart into read as the given integers. -/
structure ReadInto (s : Text) (minima rerolls numbers : List Int) : Prop where
  minima_eq : (Suffixes.scan false (normalize s)).minima.mapM Text.literal? = some minima
  rerolls_eq : (Suffixes.scan false (normalize s)).rerolls.mapM Text.literal? = some rerolls
  numbers_eq :
    ((Suffixes.scan false (normalize s)).core.splitOn 'd').mapM Text.literal? = some numbers

/-- What a token reads as under a sign: one number is a modifier, and two or three are a die set
with dice and faces. -/
inductive ReadsAs (sign : Sign) (s : Text) : Term → Prop where
  | modifier {minima rerolls : List Int} {value : Int}
    (hread : ReadInto s minima rerolls [value]) : ReadsAs sign s (.modifier (sign.apply value))
  | dice {minima rerolls : List Int} {count size : Int} {drop : Option Int}
    (hread : ReadInto s minima rerolls (count :: size :: drop.toList))
    (hcount : sign.apply count ≠ 0) (hsize : 1 ≤ size) : ReadsAs sign s (.dice {
      size
      signedCount := sign.apply count
      drop := drop.getD 0
      exploding := (normalize s).contains 'e'
      rerolled := Faces.ofList rerolls
      minimum := minima.getLast?.getD 0 })

theorem read?_eq_some_iff : read? sign s = some term ↔ ReadsAs sign s term := by
  simp only [read?, Option.bind_eq_bind, Option.bind_eq_some_iff]
  constructor
  · rintro ⟨minima, hminima, rerolls, hrerolls, numbers, hnumbers, h⟩
    rcases numbers with _ | ⟨count, _ | ⟨size, _ | ⟨drop, _ | ⟨more, others⟩⟩⟩⟩
    · cases h
    · cases h
      exact .modifier ⟨hminima, hrerolls, hnumbers⟩
    · obtain ⟨⟨hcount, hsize⟩, rfl⟩ := dice?_eq_some_iff.mp h
      exact @ReadsAs.dice _ _ _ _ _ _ none ⟨hminima, hrerolls, hnumbers⟩ hcount hsize
    · obtain ⟨⟨hcount, hsize⟩, rfl⟩ := dice?_eq_some_iff.mp h
      exact @ReadsAs.dice _ _ _ _ _ _ (some drop) ⟨hminima, hrerolls, hnumbers⟩ hcount hsize
    · cases h
  · intro h
    cases h with
    | modifier hread =>
      exact ⟨_, hread.minima_eq, _, hread.rerolls_eq, _, hread.numbers_eq, rfl⟩
    | @dice _ _ _ _ drop hread hcount hsize =>
      refine ⟨_, hread.minima_eq, _, hread.rerolls_eq, _, hread.numbers_eq, ?_⟩
      cases drop with
      | none => exact dice?_eq_some_iff.mpr ⟨⟨hcount, hsize⟩, rfl⟩
      | some drop => exact dice?_eq_some_iff.mpr ⟨⟨hcount, hsize⟩, rfl⟩

end

end Term

end DiceRoll
