import DiceRoll.Settings.Evaluator
import Mathlib

/-!
# What the environment overrides

A name that the environment sets, in whatever case, is not looked up in the file of assignments. So
the entries under such names decide nothing, whatever their texts are. What a line under such a name
does to the texts of other entries while the file is read is another matter.
-/

namespace DiceRoll.Settings

/-- Whether the environment sets a name, in whatever case. -/
def overrides (environment : List (Text × Text)) (name : Text) : Bool :=
  environment.any fun (other, _) => Text.lower other == Text.lower name

namespace Table

variable {table : Table} {key : Text} {counts : Text → Bool}

/-- A key is found without the names that do not count, if all names that spell it count. -/
theorem find?_filter (h : ∀ name, Text.lower name = key → counts name = true) :
    find? (table.filter (counts ·.1)) key = find? table key := by
  have hfound (entry : Text × Option Text) :
      decide (counts entry.1 = true ∧ (Text.lower entry.1 == key) = true) =
        (Text.lower entry.1 == key) := by
    by_cases hkey : Text.lower entry.1 = key
    · simp [hkey, h entry.1 hkey]
    · simp [hkey]
  rw [find?, find?, ← List.filter_reverse, List.find?_filter]
  simp only [hfound]

/-- A table of one name has the text of that name. -/
theorem find?_singleton {name : Text} {value : Option Text} :
    find? [(name, value)] key = if Text.lower name = key then value else none := by
  by_cases h : Text.lower name = key <;> simp [find?, h]

end Table

namespace Sources

variable {sources : Sources} {key : Text}

/-- A key is not found in the environment exactly when no name of the environment spells it. -/
theorem find?_table_eq_none_iff :
    sources.table.find? key = none ↔
      ∀ entry ∈ sources.environment, Text.lower entry.1 ≠ key := by
  rw [Table.find?]
  generalize hfound : List.find? _ sources.table.reverse = found
  rcases found with _ | found
  · rw [List.find?_eq_none] at hfound
    refine iff_of_true rfl fun entry hentry hkey => hfound (entry.1, some entry.2) ?_ (by simpa)
    exact List.mem_reverse.mpr (List.mem_map.mpr ⟨entry, hentry, rfl⟩)
  · have hkey := List.find?_some hfound
    obtain ⟨entry, hentry, rfl⟩ :=
      List.mem_map.mp (List.mem_reverse.mp (List.mem_of_find?_eq_some hfound))
    exact iff_of_false (Option.some_ne_none _) fun h => h entry hentry (beq_iff_eq.mp hkey)

/-- No name that spells a key is overridden, if the key is not found in the environment. -/
theorem not_overrides (h : sources.table.find? key = none) {name : Text}
    (hname : Text.lower name = key) : overrides sources.environment name = false := by
  rw [find?_table_eq_none_iff] at h
  rw [overrides, List.any_eq_false]
  intro entry hentry hlower
  exact h entry hentry ((beq_iff_eq.mp hlower).trans hname)

end Sources

namespace Evaluator

variable {evaluator : Evaluator} {sources other : Sources}

/-- The entries of the file under names that the environment does not set. -/
def uncovered (evaluator : Evaluator) (sources : Sources) : Table :=
  (sources.fileTable evaluator.entries).filter (!overrides sources.environment ·.1)

/-- The environments are the same, and so are the entries of the files under names that they do not
set. -/
structure AgreeUncovered (evaluator : Evaluator) (sources other : Sources) : Prop where
  environment : sources.environment = other.environment
  uncovered : evaluator.uncovered sources = evaluator.uncovered other

/-- A setting is decided by the environment or by an entry under a name that the environment does
not set. -/
theorem text?_eq (field : Field) :
    evaluator.text? sources field =
      (sources.table.find? field.key).or ((evaluator.uncovered sources).find? field.key) := by
  rw [text?, Sources.text?]
  rcases hfound : sources.table.find? field.key with _ | text
  · have hcounts : ∀ name, Text.lower name = field.key →
        (!overrides sources.environment name) = true := fun name hname => by
      rw [Sources.not_overrides hfound hname]
      rfl
    rw [uncovered, Table.find?_filter hcounts]
  · rfl

theorem AgreeUncovered.text?_eq (h : evaluator.AgreeUncovered sources other) (field : Field) :
    evaluator.text? sources field = evaluator.text? other field := by
  have htable : sources.table = other.table := by
    rw [Sources.table, Sources.table, h.environment]
  rw [Evaluator.text?_eq, Evaluator.text?_eq, htable, h.uncovered]

/-- A lawful evaluation does not depend on entries that the environment overrides. -/
theorem Lawful.evaluate_eq (h : evaluator.Lawful)
    (hagree : evaluator.AgreeUncovered sources other) :
    evaluator.evaluate sources = evaluator.evaluate other :=
  h.layered sources other hagree.text?_eq

/-! ### Texts that do not fit -/

/-- A text does not fit a setting: with nothing else set, the evaluation fails. -/
def Invalid (evaluator : Evaluator) (field : Field) (text : Text) : Prop :=
  ∃ complaints, evaluator.evaluate { environment := [(field.key, text)] } = .error complaints

/-- Where nothing but one setting is set, its text is the only one. -/
theorem text?_singleton (evaluator : Evaluator) (field other : Field) (text : Text) :
    evaluator.text? { environment := [(field.key, text)] } other =
      if other = field then some text else none := by
  have hlower : Text.lower field.key = field.key := by cases field <;> decide +kernel
  have hkey : field.key = other.key ↔ other = field := by
    cases field <;> cases other <;> decide +kernel
  have htable : Sources.table { environment := [(field.key, text)] } = [(field.key, some text)] :=
    rfl
  have hfile : Sources.fileTable { environment := [(field.key, text)] } evaluator.entries = [] :=
    rfl
  rw [text?, Sources.text?, htable, hfile, Table.find?_singleton, hlower]
  simp only [hkey]
  split <;> rfl

/-- The settings that a lawful evaluation rejects are those whose deciding text does not fit. -/
theorem Lawful.rejects_iff (h : evaluator.Lawful) {field : Field} :
    evaluator.Rejects sources field ↔
      ∃ text, evaluator.text? sources field = some text ∧ evaluator.Invalid field text := by
  have halone {text : Text} (htext : evaluator.text? sources field = some text) :
      evaluator.text? sources field =
        evaluator.text? { environment := [(field.key, text)] } field := by
    rw [text?_singleton, if_pos rfl, htext]
  constructor
  · intro hrejects
    rcases htext : evaluator.text? sources field with _ | text
    · exact absurd hrejects (h.defaulted _ _ htext)
    · obtain ⟨complaints, herror, -⟩ := h.separate _ _ _ (halone htext) hrejects
      exact ⟨text, rfl, complaints, herror⟩
  · rintro ⟨text, htext, complaints, herror⟩
    -- Some setting is complained about, and no other one has a text.
    obtain ⟨complaint, hcomplaint⟩ := List.exists_mem_of_ne_nil complaints
      fun hnil => h.explained _ (hnil ▸ herror)
    have hrejects : evaluator.Rejects { environment := [(field.key, text)] } complaint.field :=
      ⟨complaints, herror, List.mem_map_of_mem hcomplaint⟩
    have hfield : complaint.field = field := by
      by_contra hne
      exact h.defaulted _ _ (by rw [text?_singleton, if_neg hne]) hrejects
    exact h.separate _ _ _ (halone htext).symm (hfield ▸ hrejects)

end Evaluator

end DiceRoll.Settings
