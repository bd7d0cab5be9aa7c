import DiceRoll.Settings.Basic
import DiceRoll.Text.Lower

/-!
# Evaluating settings

Settings are declared by the program and evaluated by a library, from the environment and a file of
assignments. What is supposed of the library is stated here as laws. The environment goes before the
file, name by name and whatever the case of the names, and one setting is judged by its own text.
How a file is read and which texts fit a setting is left open.
-/

namespace DiceRoll.Settings

/-- Named texts, in order. A name may stand there without a text. -/
abbrev Table := List (Text × Option Text)

/-- The text of the last name that spells a key, in whatever case, if it has one. -/
def Table.find? (table : Table) (key : Text) : Option Text :=
  (table.reverse.find? fun (name, _) => Text.lower name == key).bind (·.2)

/-- Where settings are read from. -/
structure Sources where
  /-- The environment. -/
  environment : List (Text × Text) := []
  /-- The text of the file of assignments, if there is one. -/
  file : Option Text := none
deriving DecidableEq, Repr

namespace Sources

variable (sources : Sources)

/-- The texts of the environment by name. -/
def table : Table :=
  sources.environment.map fun (name, value) => (name, some value)

/-- The entries of the file, if there is one, as a reader of files gives them in an environment. -/
def fileTable (entries : List (Text × Text) → Text → Table) : Table :=
  (sources.file.map (entries sources.environment)).getD []

/-- The text that decides a setting: the environment's, or else the file's. -/
def text? (entries : List (Text × Text) → Text → Table) (field : Field) : Option Text :=
  (sources.table.find? field.key).or ((sources.fileTable entries).find? field.key)

end Sources

/-- What the program uses to evaluate its settings. -/
structure Evaluator where
  /-- The entries of a file of assignments, as they are read in an environment. -/
  entries : (environment : List (Text × Text)) → (file : Text) → Table
  /-- The settings, or the complaints about the texts that do not fit. -/
  evaluate : Sources → Answer

namespace Evaluator

variable (evaluator : Evaluator)

/-- The text that decides a setting. -/
def text? (sources : Sources) (field : Field) : Option Text :=
  sources.text? evaluator.entries field

/-- The evaluation fails and complains about a setting. -/
def Rejects (sources : Sources) (field : Field) : Prop :=
  ∃ complaints, evaluator.evaluate sources = .error complaints ∧
    field ∈ complaints.map (·.field)

/-- What is supposed of an evaluation. -/
structure Lawful : Prop where
  /-- The outcome depends on the deciding texts alone. -/
  layered : ∀ sources other,
    (∀ field, evaluator.text? sources field = evaluator.text? other field) →
    evaluator.evaluate sources = evaluator.evaluate other
  /-- Each setting is judged by its own deciding text, whatever the others are. -/
  separate : ∀ sources other field, evaluator.text? sources field = evaluator.text? other field →
    evaluator.Rejects sources field → evaluator.Rejects other field
  /-- No setting without a text is rejected. -/
  defaulted : ∀ sources field, evaluator.text? sources field = none →
    ¬ evaluator.Rejects sources field
  /-- A failure is the rejection of some setting. -/
  explained : ∀ sources, evaluator.evaluate sources ≠ .error []

end Evaluator

end DiceRoll.Settings
