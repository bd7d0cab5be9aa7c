import DiceRoll.Report.Line
import DiceRoll.Proofs.Formula.Expressible
import DiceRoll.Proofs.Roll.Formula

/-!
# When result lines can be written

The parts of a line can be written when the numbers in them are short enough, and then their texts
are those of the numbers. Of a result that a written formula gives, only the total can be too long.
-/

namespace DiceRoll

namespace Result

open Text (fits decimal ofInt)

variable (result : Result)

theorem givesWhen_decimal (n : Int) : GivesWhen (decimal n) (fits n = true) (ofInt n) :=
  fun _ => Text.decimal_eq_ok_iff

/-- The text of joined absolute values. -/
def magnitudesText (separator : Text) (values : List Int) : Text :=
  separator.intercalate (values.map fun value => ofInt value.natAbs)

theorem givesWhen_magnitudes (separator : Text) (values : List Int) :
    GivesWhen (magnitudes separator values) (∀ value ∈ values, fits value = true)
      (magnitudesText separator values) := by
  have htexts := GivesWhen.mapM (fun value : Int => givesWhen_decimal value.natAbs) values
  refine (htexts.map _).congr ?_
  simp only [Text.fits_natAbs]

/-- The text of the values that a set kept. -/
def groupText (outcome : Outcome) : Text :=
  (if outcome.negative then ['-'] else []) ++ '[' :: magnitudesText ['+'] outcome.kept ++ [']']

theorem givesWhen_group (outcome : Outcome) :
    GivesWhen (group outcome) (∀ value ∈ outcome.kept, fits value = true) (groupText outcome) :=
  (givesWhen_magnitudes ['+'] outcome.kept).map _

/-- The modifiers as they are shown, of which there is at least a zero. -/
def shownModifiers : List Int :=
  if result.modifiers.isEmpty then [0] else result.modifiers

/-- The text of what each set kept and of the modifiers. -/
def detailsText : Text :=
  Text.mergeSigns
    (['+'].intercalate (result.outcomes.map groupText ++ result.shownModifiers.map ofInt))

/-- The kept values and the modifiers are short enough to be written. -/
def DetailsFit : Prop :=
  (∀ outcome ∈ result.outcomes, ∀ value ∈ outcome.kept, fits value = true) ∧
    ∀ value ∈ result.modifiers, fits value = true

theorem givesWhen_details : GivesWhen result.details result.DetailsFit result.detailsText := by
  have hmodifiers := GivesWhen.mapM givesWhen_decimal result.shownModifiers
  refine ((GivesWhen.mapM givesWhen_group result.outcomes).bind _ (hmodifiers.map _)).congr ?_
  have hzero : fits 0 = true := by decide
  unfold shownModifiers DetailsFit
  split
  · simp_all
  · rfl

/-- The texts of what the sets dropped: of the one set that dropped any, or of each set in brackets.
-/
def dropTexts : List Text :=
  if result.dropCount ≤ 1 then
    (result.outcomes.filter fun outcome => !outcome.dropped.isEmpty).map
      fun outcome => magnitudesText [','] outcome.dropped
  else result.outcomes.map fun outcome => '[' :: magnitudesText [','] outcome.dropped ++ [']']

/-- The text of what was dropped, given the texts of what the sets dropped. -/
def joinDrops (texts : List Text) : Text :=
  if texts.isEmpty then [] else " Dropped (".toList ++ [',', ' '].intercalate texts ++ [')']

/-- The dropped values are short enough to be written. -/
def DroppedFit : Prop :=
  ∀ outcome ∈ result.outcomes, ∀ value ∈ outcome.dropped, fits value = true

theorem givesWhen_dropped :
    GivesWhen result.dropped result.DroppedFit (joinDrops result.dropTexts) := by
  have hvalues (outcome : Outcome) := givesWhen_magnitudes [','] outcome.dropped
  have hjoin (texts : List Text) : GivesWhen
      (if texts.isEmpty then pure []
        else pure (" Dropped (".toList ++ [',', ' '].intercalate texts ++ [')']) :
          Except Text.TooLong Text)
      True (joinDrops texts) := by
    unfold joinDrops
    split
    · exact .pure
    · exact .pure
  unfold dropped dropTexts
  split
  · refine ((GivesWhen.mapM hvalues _).bind _ (hjoin _)).congr ?_
    rw [and_true]
    constructor
    · intro h outcome houtcome value hvalue
      refine h outcome (List.mem_filter.mpr ⟨houtcome, ?_⟩) value hvalue
      simpa using List.ne_nil_of_mem hvalue
    · exact fun h outcome houtcome => h outcome (List.mem_of_mem_filter houtcome)
  · refine (GivesWhen.bind (GivesWhen.mapM (fun outcome => (hvalues outcome).map _) _) _
      (hjoin _)).congr ?_
    exact iff_of_eq (and_true _)

/-- The text of the line of a result. -/
def lineText : Text :=
  "Result: ".toList ++ ofInt result.total ++ ' ' :: result.detailsText ++
    joinDrops result.dropTexts

/-- A line can be written when the total can and the details and the dropped values can. -/
theorem givesWhen_line :
    GivesWhen result.line (fits result.total = true ∧ result.DetailsFit ∧ result.DroppedFit)
      result.lineText :=
  (givesWhen_decimal result.total).bind _
    (result.givesWhen_details.bind _ (result.givesWhen_dropped.map _))

end Result

/-- Of a result that a written formula gives, only the total can be too long to be written. -/
theorem Formula.Gives.detailsFit_and_droppedFit {formula : Formula} {result : Result}
    (h : formula.Gives result) (hformula : formula.Expressible) :
    result.DetailsFit ∧ result.DroppedFit := by
  refine ⟨⟨fun outcome houtcome value hvalue => ?_, ?_⟩, fun outcome houtcome value hvalue => ?_⟩
  · exact h.fits houtcome (List.mem_append_left _ hvalue)
  · obtain ⟨selections, -, rfl⟩ := h
    exact hformula.modifiers
  · exact h.fits houtcome (List.mem_append_right _ hvalue)

end DiceRoll
