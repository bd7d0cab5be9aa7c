import DiceRoll.Proofs.Roll.Formula

/-!
# Expressions that cannot be read

An expression is read before anything is rolled for it, and rolling finds no fault with the way it
is written. So an expression that is found unreadable once does nothing but fail, with the same
fault each time, whatever the ceiling and the source are.
-/

namespace DiceRoll

variable {allowed : Event → Prop}

/-- Whether a fault lies in the way an expression is written. -/
def Fault.isMalformed : Fault → Bool
  | .malformed _ => true
  | _ => false

theorem DieSet.meets_roll_readable (set : DieSet) (ceiling : Int) :
    Roll.Meets allowed (set.roll ceiling) set.Selects (·.isMalformed = false) := by
  intro source _
  have hrolls := set.rolls_run_roll ceiling source
  generalize (set.roll ceiling).run source = run at hrolls ⊢
  cases hrolls with
  | done _ _ _ short => exact ⟨⟨_, rfl⟩, short⟩
  | endless | capUnwritable | exhausted | unwritable => exact rfl

namespace Roll

/-- Once its formula is read, no expression is found unreadable. -/
theorem meets_expression_readable {written : Text} {repetition : Repetition} {formula : Formula}
    (hread : Repetition.read written = .ok repetition)
    (hparse : Formula.parse repetition.formula = .ok formula) (ceiling : Int) :
    Meets allowed (expression written ceiling) (fun _ => True) (·.isMalformed = false) := by
  have hroll : Meets allowed (formula.roll ceiling) formula.Gives (·.isMalformed = false) :=
    Formula.meets_roll_of fun set _ => set.meets_roll_readable ceiling
  have htell : Meets allowed (tell (.parsed repetition.formula formula)) (fun _ => True)
      (·.isMalformed = false) := (meets_tell fun _ => by rfl).mono fun _ _ => trivial
  rw [expression_eq hread hparse]
  exact htell.bind fun _ _ => (hroll.times _).mono fun _ _ => trivial

/-- Whether an expression is ever found unreadable. -/
def Unreadable (written : Text) : Prop :=
  ∃ ceiling source fault, ((expression written ceiling).run source).outcome =
    .error (.malformed fault)

/-- An unreadable expression does nothing but fail. -/
theorem Unreadable.exists_expression_eq_fail {written : Text} (h : Unreadable written) :
    ∃ fault, ∀ ceiling, expression written ceiling = fail (.malformed fault) := by
  cases hread : Repetition.read written with
  | error fault => exact ⟨fault, fun ceiling => by simp [expression, hread]⟩
  | ok repetition =>
    cases hparse : Formula.parse repetition.formula with
    | error fault => exact ⟨fault, expression_eq_fail hread hparse⟩
    | ok formula =>
      obtain ⟨ceiling, source, fault, hfault⟩ := h
      have hends := meets_expression_readable hread hparse ceiling source fun _ _ => trivial
      rw [Run.Ends, hfault] at hends
      cases hends

end Roll

end DiceRoll
