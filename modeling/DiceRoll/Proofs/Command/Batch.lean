import DiceRoll.Command.Batch
import DiceRoll.Proofs.Report.Characters
import DiceRoll.Proofs.Roll.Writable

/-!
# When a batch is rolled to its end

The expressions of a command are rolled one after the other from one source, whatever becomes of
each. What the command prints is made of what is to be printed for each of them, with some
exceptions. A number too long to be written cuts the batch short, be it a total, which is not
written before the roll that gave it was found free of faults, or one that the roll tells of. And
complaints are printed as the console shows them, if it can.
-/

namespace DiceRoll.Command

/-- An expression and the run of it. -/
structure Rolled where
  expression : Text
  run : Run (List Result)

/-- The runs of expressions in order, each on what the one before left of the source. -/
def rolls (ceiling : Int) : List Text → Source → List Rolled
  | [], _ => []
  | first :: rest, source =>
    let run := (Roll.expression first ceiling).run source
    ⟨first, run⟩ :: rolls ceiling rest run.source

namespace Rolled

variable (console : Console) (rolled : Rolled)

/-- The roll gave no results. -/
def failed : Bool :=
  match rolled.run.outcome with
  | .ok _ => false
  | .error _ => true

/-- The lines that are to be printed for an expression: a line for each result, or one that reports
the expression and its fault. -/
def Prints (lines : List Text) : Prop :=
  match rolled.run.outcome with
  | .ok results => List.Forall₂ (fun result line => result.line = .ok line) results lines
  | .error fault => lines = ["Error: ".toList ++ complaint rolled.expression fault]

/-- The draws lay in range and did not run out. -/
structure Sound : Prop where
  inRange : ∀ event ∈ rolled.run.events, event.InRange
  not_exhausted : rolled.run.outcome ≠ .error .exhausted

/-- No number that the roll tells of is too long to be written. -/
def Told : Prop :=
  rolled.run.outcome ≠ .error .tooLong

/-- Every total is short enough to be written. -/
def TotalsFit : Prop :=
  ∀ results, rolled.run.outcome = .ok results → ∀ result ∈ results, Text.fits result.total = true

/-- The console shows the complaint about the expression, if there is one, as it stands. -/
def Verbatim : Prop :=
  ∀ fault, rolled.run.outcome = .error fault →
    console.showError (complaint rolled.expression fault) =
      some ("Error: ".toList ++ complaint rolled.expression fault)

/-- The results come from formulas that were read, and the source did not run out. -/
structure Regular : Prop where
  results : ∀ results, rolled.run.outcome = .ok results →
    ∀ result ∈ results, result.DetailsFit ∧ result.DroppedFit
  not_exhausted : rolled.run.outcome ≠ .error .exhausted

/-- Nothing about the expression stops the command. -/
structure Passes : Prop where
  told : rolled.Told
  totalsFit : rolled.TotalsFit
  reported : ∀ fault, rolled.run.outcome = .error fault →
    (console.showError (complaint rolled.expression fault)).isSome = true

/-- The lines that are printed for an expression that does not stop the command. -/
def shownLines : List Text :=
  match rolled.run.outcome with
  | .ok results => results.map Result.lineText
  | .error fault => (console.showError (complaint rolled.expression fault)).toList

end Rolled

/-- The rolls of a batch are those of its expressions, each on some source. -/
theorem forall_mem_rolls {ceiling : Int} {holds : Rolled → Prop}
    (h : ∀ expression source, holds ⟨expression, (Roll.expression expression ceiling).run source⟩)
    {expressions : List Text} {source : Source} :
    ∀ rolled ∈ rolls ceiling expressions source, holds rolled := by
  induction expressions generalizing source with
  | nil => simp [rolls]
  | cons first rest ih => exact List.forall_mem_cons.mpr ⟨h first source, ih⟩

/-- Sound rolls are regular. -/
theorem regular_of_mem_rolls {ceiling : Int} {expressions : List Text} {source : Source}
    (h : ∀ rolled ∈ rolls ceiling expressions source, rolled.Sound) :
    ∀ rolled ∈ rolls ceiling expressions source, rolled.Regular := by
  have hall : ∀ rolled ∈ rolls ceiling expressions source, rolled.Sound → rolled.Regular := by
    refine forall_mem_rolls fun expression source hsound => ⟨fun results hresults => ?_, ?_⟩
    · intro result hresult
      obtain ⟨formula, hformula, hgives⟩ :=
        Roll.exists_gives_of_expression hresults result hresult
      exact hgives.detailsFit_and_droppedFit hformula
    · exact hsound.not_exhausted
  exact fun rolled hrolled => hall rolled hrolled (h rolled hrolled)

/-- Under a ceiling that can be written, sound rolls tell of no number that cannot. -/
theorem told_of_mem_rolls {ceiling : Int} (hceiling : Text.fits ceiling = true)
    {expressions : List Text} {source : Source}
    (h : ∀ rolled ∈ rolls ceiling expressions source, rolled.Sound) :
    ∀ rolled ∈ rolls ceiling expressions source, rolled.Told := by
  have hall : ∀ rolled ∈ rolls ceiling expressions source, rolled.Sound → rolled.Told :=
    forall_mem_rolls fun _ _ hsound => Roll.expression_ne_tooLong hceiling hsound.inRange
  exact fun rolled hrolled => hall rolled hrolled (h rolled hrolled)

/-- Good arguments and settings give a report on the batch of expressions. -/
theorem runWith_eq_report {arguments : Arguments} (h : arguments.expressions ≠ [])
    (console : Console) (settings : Settings) (generator : Option Int → Source) :
    runWith console arguments settings generator =
      (rollAll console settings.maxDicePerSet arguments.expressions
        (generator (arguments.seed.or settings.seed))).report (arguments.seed.or settings.seed)
        (arguments.verbose || settings.debug) := by
  rw [runWith, if_neg (by simpa using h)]

/-! ### What is printed -/

section

variable {console : Console}

/-- A console that shows ASCII shows the lines of results as they stand. -/
theorem Console.ShowsAscii.showResult_lineText (h : console.ShowsAscii) {result : Result}
    (hdetails : result.DetailsFit) :
    console.showResult result.lineText result.style = some result.lineText :=
  h _ _ result.isPrintableAscii_lineText (Result.getLast?_lineText_ne hdetails)

/-- Results are all printed when all totals are short enough. -/
theorem printLines_eq (hascii : console.ShowsAscii) {results : List Result}
    (hregular : ∀ result ∈ results, result.DetailsFit ∧ result.DroppedFit)
    (htotals : ∀ result ∈ results, Text.fits result.total = true) :
    printLines console results = (results.map Result.lineText, .done) := by
  induction results with
  | nil => rfl
  | cons first rest ih =>
    obtain ⟨hfirst, hrest⟩ := List.forall_mem_cons.mp hregular
    obtain ⟨htotal, htotals⟩ := List.forall_mem_cons.mp htotals
    have hline := (first.givesWhen_line first.lineText).mpr ⟨⟨htotal, hfirst⟩, rfl⟩
    rw [printLines, hline]
    dsimp only
    rw [hascii.showResult_lineText hfirst.1]
    dsimp only
    rw [ih hrest htotals]
    rfl

/-- A total that is too long cuts the printing short. -/
theorem exists_printLines_stopped {results : List Result} {result : Result}
    (hresult : result ∈ results) (htotal : Text.fits result.total ≠ true) :
    ∃ halt, (printLines console results).2 = .stopped halt := by
  induction results with
  | nil => simp at hresult
  | cons first rest ih =>
    rw [printLines]
    split
    · exact ⟨_, rfl⟩
    · rename_i line hline
      split
      · exact ⟨_, rfl⟩
      · rcases List.mem_cons.mp hresult with rfl | hrest
        · exact absurd ((result.givesWhen_line line).mp hline).1.1 htotal
        · exact ih hrest

variable {ceiling : Int} {rolled : Rolled} {source : Source}

/-- An expression about which nothing stops the command prints its lines. -/
theorem rollOne_of_passes (hascii : console.ShowsAscii)
    (hrun : (Roll.expression rolled.expression ceiling).run source = rolled.run)
    (hregular : rolled.Regular) (hpasses : rolled.Passes console) :
    (rollOne console ceiling rolled.expression source).lines = rolled.shownLines console ∧
      (rollOne console ceiling rolled.expression source).source = rolled.run.source ∧
      (rollOne console ceiling rolled.expression source).ending =
        if rolled.failed then .reported else .done := by
  rcases rolled with ⟨expression, ⟨fault | results, left, events⟩⟩
  · obtain ⟨shown, hshown⟩ := Option.isSome_iff_exists.mp (hpasses.reported fault rfl)
    rw [Rolled.shownLines, rollOne, hrun]
    simp only [hshown]
    cases fault with
    | exhausted => exact absurd rfl hregular.not_exhausted
    | tooLong => exact absurd rfl hpasses.told
    | malformed | endless =>
      simp only [hshown]
      exact ⟨rfl, trivial, rfl⟩
  · have hprint := printLines_eq hascii (hregular.results results rfl)
      (hpasses.totalsFit results rfl)
    rw [rollOne, hrun]
    simp only [hprint]
    exact ⟨rfl, trivial, rfl⟩

/-- Any other expression stops the command. -/
theorem exists_rollOne_stopped
    (hrun : (Roll.expression rolled.expression ceiling).run source = rolled.run)
    (h : ¬ rolled.Passes console) :
    ∃ halt, (rollOne console ceiling rolled.expression source).ending = .stopped halt := by
  rcases rolled with ⟨expression, ⟨fault | results, left, events⟩⟩
  · rw [rollOne, hrun]
    cases fault with
    | exhausted | tooLong => exact ⟨_, rfl⟩
    | malformed | endless =>
      dsimp only
      split
      · rename_i hshown
        refine absurd ⟨?_, ?_, ?_⟩ h
        · rintro ⟨⟩
        · rintro _ ⟨⟩
        · rintro _ ⟨⟩
          rw [hshown]
          rfl
      · exact ⟨_, rfl⟩
  · have htotal : ∃ result ∈ results, Text.fits result.total ≠ true := by
      by_contra hall
      push Not at hall
      refine h ⟨?_, ?_, ?_⟩
      · rintro ⟨⟩
      · rintro _ ⟨⟩
        exact hall
      · rintro _ ⟨⟩
    obtain ⟨result, hresult, htotal⟩ := htotal
    rw [rollOne, hrun]
    exact exists_printLines_stopped hresult htotal

/-- A batch ends with an expression that stops the command. -/
theorem rollAll_cons_of_stopped {first : Text} {rest : List Text} {halt : Halt}
    (h : (rollOne console ceiling first source).ending = .stopped halt) :
    rollAll console ceiling (first :: rest) source = rollOne console ceiling first source := by
  rw [rollAll]
  simp only [h]

/-- A batch goes on after an expression that does not stop the command. -/
theorem rollAll_cons {first : Text} {rest : List Text}
    (h : ∀ halt, (rollOne console ceiling first source).ending ≠ .stopped halt) :
    rollAll console ceiling (first :: rest) source =
      let block := rollOne console ceiling first source
      let others := rollAll console ceiling rest block.source
      { lines := block.lines ++ others.lines
        events := block.events ++ others.events
        source := others.source
        ending := block.ending.then others.ending } := by
  rw [rollAll]
  dsimp only
  split
  · exact absurd ‹_› (h _)
  · rfl

/-- A batch goes on after an expression about which nothing stops the command. -/
theorem rollAll_cons_of_passes {rest : List Text} (hascii : console.ShowsAscii)
    (hrun : (Roll.expression rolled.expression ceiling).run source = rolled.run)
    (hregular : rolled.Regular) (hpasses : rolled.Passes console) :
    rollAll console ceiling (rolled.expression :: rest) source =
      let others := rollAll console ceiling rest rolled.run.source
      { lines := rolled.shownLines console ++ others.lines
        events := (rollOne console ceiling rolled.expression source).events ++ others.events
        source := others.source
        ending := (if rolled.failed then Ending.reported else .done).then others.ending } := by
  obtain ⟨hlines, hsource, hending⟩ := rollOne_of_passes hascii hrun hregular hpasses
  have hgoes : ∀ halt,
      (rollOne console ceiling rolled.expression source).ending ≠ .stopped halt := by
    intro halt
    rw [hending]
    split <;> simp
  rw [rollAll_cons hgoes]
  dsimp only
  rw [hlines, hsource, hending]

variable {expressions : List Text}

/-- A batch in which nothing stops the command prints the lines of each expression. -/
theorem rollAll_of_passes (hascii : console.ShowsAscii)
    (hregular : ∀ rolled ∈ rolls ceiling expressions source, rolled.Regular)
    (hpasses : ∀ rolled ∈ rolls ceiling expressions source, rolled.Passes console) :
    (rollAll console ceiling expressions source).lines =
        (rolls ceiling expressions source).flatMap (·.shownLines console) ∧
      (rollAll console ceiling expressions source).ending =
        if (rolls ceiling expressions source).any Rolled.failed then .reported else .done := by
  induction expressions generalizing source with
  | nil => exact ⟨rfl, rfl⟩
  | cons first rest ih =>
    obtain ⟨hfirst, hrest⟩ := List.forall_mem_cons.mp hregular
    obtain ⟨hpass, hpasses⟩ := List.forall_mem_cons.mp hpasses
    obtain ⟨hlines, hending⟩ := ih hrest hpasses
    have hcons := @rollAll_cons_of_passes console ceiling _ source rest hascii rfl hfirst hpass
    dsimp only at hcons
    rw [hcons, hlines, hending, rolls, List.flatMap_cons, List.any_cons]
    refine ⟨rfl, ?_⟩
    cases Rolled.failed _ <;> cases List.any _ _ <;> rfl

/-- In any other batch something stops the command. -/
theorem exists_rollAll_stopped (hascii : console.ShowsAscii)
    (hregular : ∀ rolled ∈ rolls ceiling expressions source, rolled.Regular)
    (hrolled : rolled ∈ rolls ceiling expressions source) (h : ¬ rolled.Passes console) :
    ∃ halt, (rollAll console ceiling expressions source).ending = .stopped halt := by
  induction expressions generalizing source with
  | nil => simp [rolls] at hrolled
  | cons first rest ih =>
    obtain ⟨hfirst, hrest⟩ := List.forall_mem_cons.mp hregular
    by_cases hpass : (Rolled.mk first ((Roll.expression first ceiling).run source)).Passes console
    · have hcons := @rollAll_cons_of_passes console ceiling _ source rest hascii rfl hfirst hpass
      have hmem : rolled ∈ rolls ceiling rest ((Roll.expression first ceiling).run source).source :=
        (List.mem_cons.mp hrolled).resolve_left fun heq => h (heq ▸ hpass)
      obtain ⟨halt, hhalt⟩ := ih hrest hmem
      dsimp only at hcons
      rw [hcons, hhalt]
      refine ⟨halt, ?_⟩
      split <;> rfl
    · obtain ⟨halt, hhalt⟩ := exists_rollOne_stopped rfl hpass
      dsimp only at hhalt
      exact ⟨halt, by rw [rollAll_cons_of_stopped hhalt, hhalt]⟩

end

end DiceRoll.Command
