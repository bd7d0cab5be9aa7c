import DiceRoll.DieSet

/-!
# Formulas

A formula is what a written expression such as `2d6+3` stands for: die sets and modifiers, each in
written order.
-/

namespace DiceRoll

/-- One summand of a formula. -/
inductive Term where
  /-- A flat value. -/
  | modifier (value : Int)
  /-- A group of dice. -/
  | dice (set : DieSet)
deriving DecidableEq, Repr

/-- The die set of a term that is one. -/
def Term.set? : Term → Option DieSet
  | .modifier _ => none
  | .dice set => some set

/-- The value of a term that is a modifier. -/
def Term.modifier? : Term → Option Int
  | .modifier value => some value
  | .dice _ => none

/-- Die sets and modifiers that are rolled and added up together. -/
@[ext] structure Formula where
  sets : List DieSet := []
  modifiers : List Int := []
deriving DecidableEq, Repr

namespace Formula

/-- The sets of both formulas and the modifiers of both, those of the left one first. -/
instance : Append Formula where
  append left right := ⟨left.sets ++ right.sets, left.modifiers ++ right.modifiers⟩

@[simp] theorem sets_append (left right : Formula) :
    (left ++ right).sets = left.sets ++ right.sets := rfl

@[simp] theorem modifiers_append (left right : Formula) :
    (left ++ right).modifiers = left.modifiers ++ right.modifiers := rfl

/-- The formula of the given terms. -/
def ofTerms (terms : List Term) : Formula :=
  ⟨terms.filterMap Term.set?, terms.filterMap Term.modifier?⟩

/-- Joined lists of terms give joined formulas. -/
theorem ofTerms_append (left right : List Term) :
    ofTerms (left ++ right) = ofTerms left ++ ofTerms right := by
  ext1 <;> simp [ofTerms]

end Formula

end DiceRoll
