import DiceRoll.Settings.Evaluator

/-!
# The settings accessor

Settings are evaluated once and then remembered, until they are forgotten. Complaints are not
remembered, so a later attempt evaluates again.
-/

namespace DiceRoll.Settings

/-- The settings that were evaluated last, unless they have been forgotten since. -/
abbrev Memory := Option Settings

/-- One use of the accessor. -/
structure Access where
  /-- Whether what is remembered is forgotten first. -/
  forget : Bool := false
  /-- Where settings would be read from. -/
  sources : Sources := {}
deriving DecidableEq, Repr

namespace Evaluator

variable (evaluator : Evaluator)

/-- The answer to an access, and what is remembered after it. -/
def access (memory : Memory) (access : Access) : Answer × Memory :=
  match if access.forget then none else memory with
  | some settings => (.ok settings, some settings)
  | none =>
    match evaluator.evaluate access.sources with
    | .ok settings => (.ok settings, some settings)
    | .error complaints => (.error complaints, none)

/-- The answers to a sequence of accesses. -/
def answers (memory : Memory) : List Access → List Answer
  | [] => []
  | first :: rest =>
    let (answer, memory) := evaluator.access memory first
    answer :: answers memory rest

end Evaluator

end DiceRoll.Settings
