import DiceRoll.Main.Settings
import Mathlib

/-!
# The evaluator of the program is lawful

A failed reading complains about the settings whose deciding text does not fit. So whether a setting
is complained about depends on its own deciding text, and the outcome on these texts alone.
-/

namespace DiceRoll.Settings

/-- What kept a value from being had. -/
def misfitOf {α : Type} : Except Misfit α → Option Misfit
  | .ok _ => none
  | .error misfit => some misfit

/-- Why a text does not fit a setting, if it does not. -/
def Field.misfit? : Field → Text → Option Misfit
  | .debug, text => misfitOf (readBoolean text)
  | .maxDicePerSet, text => misfitOf (readInteger text)
  | .seed, text => misfitOf (readInteger text)

/-- All settings, in the order in which they are reported. -/
def fields : List Field :=
  [.debug, .maxDicePerSet, .seed]

theorem mem_fields (field : Field) : field ∈ fields := by
  cases field <;> decide

/-- What is wrong with a text for a setting. -/
def wrong? (text? : Field → Option Text) (field : Field) : Option Complaint :=
  ((text? field).bind field.misfit?).map (⟨field, ·⟩)

variable {text? : Field → Option Text} {field : Field}

/-- The settings that are complained about are those with something wrong. -/
theorem mem_map_field_wrong? :
    field ∈ (fields.filterMap (wrong? text?)).map (·.field) ↔ (wrong? text? field).isSome := by
  have hfield {other : Field} {complaint : Complaint} (h : wrong? text? other = some complaint) :
      complaint.field = other := by
    obtain ⟨misfit, -, rfl⟩ := Option.map_eq_some_iff.mp h
    rfl
  rw [List.mem_map, Option.isSome_iff_exists]
  constructor
  · rintro ⟨complaint, hmem, rfl⟩
    obtain ⟨other, -, hother⟩ := List.mem_filterMap.mp hmem
    exact ⟨complaint, hfield hother ▸ hother⟩
  · rintro ⟨complaint, hwrong⟩
    exact ⟨complaint, List.mem_filterMap.mpr ⟨field, mem_fields field, hwrong⟩, hfield hwrong⟩

theorem complaint?_valueOr {α : Type} {default : α} {read : Text → Except Misfit α}
    {text? : Option Text} :
    complaint? field (valueOr default read text?) =
      (text?.bind fun text => misfitOf (read text)).map (⟨field, ·⟩) := by
  rcases text? with _ | text
  · rfl
  · rw [valueOr, Option.bind_some]
    cases read text <;> rfl

/-- The complaints of a failed reading are about what is wrong with the texts. -/
theorem complaints_eq (text? : Field → Option Text) :
    [complaint? .debug (valueOr false readBoolean (text? .debug)),
      complaint? .maxDicePerSet
        (valueOr DieSet.defaultCeiling readInteger (text? .maxDicePerSet)),
      complaint? .seed (valueOr none (fun text => some <$> readInteger text)
        (text? .seed))].filterMap id = fields.filterMap (wrong? text?) := by
  have hseed (text : Text) :
      misfitOf (some <$> readInteger text) = misfitOf (readInteger text) := by
    cases readInteger text <;> rfl
  simp only [complaint?_valueOr, hseed]
  rfl

/-- Reading succeeds when nothing is wrong, and otherwise says everything that is. -/
theorem read_eq_ok_or_error (text? : Field → Option Text) :
    (fields.filterMap (wrong? text?) = [] ∧ ∃ settings, read text? = .ok settings) ∨
      (fields.filterMap (wrong? text?) ≠ [] ∧
        read text? = .error (fields.filterMap (wrong? text?))) := by
  rw [← complaints_eq]
  unfold read
  generalize valueOr false readBoolean (text? .debug) = debug
  generalize valueOr DieSet.defaultCeiling readInteger (text? .maxDicePerSet) = ceiling
  generalize valueOr none (fun text => some <$> readInteger text) (text? .seed) = seed
  cases debug <;> cases ceiling <;> cases seed <;> simp [complaint?]

namespace Evaluator

variable {sources : Sources}

/-- A setting is rejected exactly when something is wrong with its deciding text. -/
theorem rejects_own_iff :
    own.Rejects sources field ↔ (wrong? (own.text? sources) field).isSome := by
  rw [← mem_map_field_wrong?]
  rcases read_eq_ok_or_error (own.text? sources) with ⟨hnone, settings, hread⟩ | ⟨-, hread⟩
  · refine iff_of_false ?_ (by simp [hnone])
    rintro ⟨complaints, herror, -⟩
    cases herror.symm.trans hread
  · refine ⟨?_, fun hmem => ⟨_, hread, hmem⟩⟩
    rintro ⟨complaints, herror, hmem⟩
    cases herror.symm.trans hread
    exact hmem

theorem lawful_own : own.Lawful where
  layered sources other h := congrArg read (funext h)
  separate sources other field h hrejects := by
    rw [rejects_own_iff, wrong?] at hrejects ⊢
    rwa [← h]
  defaulted sources field h := by
    rw [rejects_own_iff, wrong?, h]
    simp
  explained sources hnil := by
    rcases read_eq_ok_or_error (own.text? sources) with ⟨-, settings, hread⟩ | ⟨hsome, hread⟩
    · cases hnil.symm.trans hread
    · exact hsome (Except.error.inj (hread.symm.trans hnil))

end Evaluator

end DiceRoll.Settings
