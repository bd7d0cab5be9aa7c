import DiceRoll.Main.Markup
import DiceRoll.Proofs.Command.Batch
import DiceRoll.Proofs.Formula.Written

/-!
# When the command shows what is to be printed

The report of the command is faithful when it shows, in order, what is to be printed for each of the
expressions and the command runs to its end. It does so exactly when all numbers that are told of
and all totals are short enough to be written and the console shows the complaints as they stand.
-/

namespace DiceRoll

/-- Two ways to give each item lines, equally many of them, give the same lines in all exactly when
they do for each item. -/
theorem flatMap_eq_flatMap_iff {α β : Type} {items : List α} {f g : α → List β}
    (h : ∀ item ∈ items, (f item).length = (g item).length) :
    items.flatMap f = items.flatMap g ↔ ∀ item ∈ items, f item = g item := by
  induction items with
  | nil => simp
  | cons first rest ih =>
    obtain ⟨hfirst, hrest⟩ := List.forall_mem_cons.mp h
    rw [List.flatMap_cons, List.flatMap_cons, List.forall_mem_cons, ← ih hrest]
    exact ⟨fun heq => List.append_inj heq hfirst, fun ⟨hf, hg⟩ => by rw [hf, hg]⟩

namespace Command

namespace Rolled

variable {console : Console} {rolled : Rolled}

/-- The lines that are to be printed for an expression whose totals are short enough. -/
def dueLines (rolled : Rolled) : List Text :=
  match rolled.run.outcome with
  | .ok results => results.map Result.lineText
  | .error fault => ["Error: ".toList ++ complaint rolled.expression fault]

theorem prints_iff (hregular : rolled.Regular) (htotals : rolled.TotalsFit) {lines : List Text} :
    rolled.Prints lines ↔ lines = rolled.dueLines := by
  rcases rolled with ⟨expression, ⟨fault | results, left, events⟩⟩
  · simp only [Prints, dueLines]
  · have hlines := GivesWhen.mapM Result.givesWhen_line results lines
    rw [mapM_eq_ok_iff] at hlines
    refine hlines.trans (and_iff_right fun result hresult => ?_)
    exact ⟨htotals results rfl result hresult, hregular.results results rfl result hresult⟩

theorem length_shownLines (hpasses : rolled.Passes console) :
    (rolled.shownLines console).length = rolled.dueLines.length := by
  rcases rolled with ⟨expression, ⟨fault | results, left, events⟩⟩
  · obtain ⟨shown, hshown⟩ := Option.isSome_iff_exists.mp (hpasses.reported fault rfl)
    simp [shownLines, dueLines, hshown]
  · rfl

theorem shownLines_eq_dueLines_iff :
    rolled.shownLines console = rolled.dueLines ↔ rolled.Verbatim console := by
  unfold shownLines dueLines Verbatim
  cases rolled.run.outcome with
  | ok results => simp
  | error fault => simp [Option.toList_eq_singleton_iff]

/-- A complaint that is shown as it stands is shown. -/
theorem Verbatim.passes (h : rolled.Verbatim console) (htold : rolled.Told)
    (htotals : rolled.TotalsFit) : rolled.Passes console :=
  ⟨htold, htotals, fun fault hfault => by rw [h fault hfault]; rfl⟩

end Rolled

/-- The report shows, in order, what is to be printed for each expression, and an exit code that
says whether one of them failed. -/
structure Report.Faithful (report : Report) (rolls : List Rolled) : Prop where
  unbroken : report.halt = none
  lines : ∃ blocks, List.Forall₂ Rolled.Prints rolls blocks ∧ report.lines = blocks.flatten
  exitCode : report.exitCode = if rolls.any Rolled.failed then 1 else 0

/-- What is to be printed for each expression is determined when all totals are short enough. -/
theorem exists_prints_iff {rolls : List Rolled} (hregular : ∀ rolled ∈ rolls, rolled.Regular)
    (htotals : ∀ rolled ∈ rolls, rolled.TotalsFit) {lines : List Text} :
    (∃ blocks, List.Forall₂ Rolled.Prints rolls blocks ∧ lines = blocks.flatten) ↔
      lines = rolls.flatMap Rolled.dueLines := by
  have hblocks (blocks : List (List Text)) :
      List.Forall₂ Rolled.Prints rolls blocks ↔ blocks = rolls.map Rolled.dueLines :=
    forall₂_iff_eq_map fun rolled hrolled _ =>
      Rolled.prints_iff (hregular rolled hrolled) (htotals rolled hrolled)
  simp [hblocks, List.flatMap_def]

/-- The rolls of the expressions that the arguments hold. -/
def rollsWith (arguments : Arguments) (settings : Settings) (generator : Option Int → Source) :
    List Rolled :=
  rolls settings.maxDicePerSet arguments.expressions (generator (arguments.seed.or settings.seed))

/-- The report on a batch of sound rolls is faithful exactly when all numbers told of and all totals
are short enough to be written and the console shows each complaint as it stands. Under a ceiling
that can be written the numbers told of always are. -/
theorem faithful_runWith_iff {console : Console} (hascii : console.ShowsAscii)
    {arguments : Arguments} (hsome : arguments.expressions ≠ []) {settings : Settings}
    {generator : Option Int → Source}
    (hsound : ∀ rolled ∈ rollsWith arguments settings generator, rolled.Sound) :
    ((runWith console arguments settings generator).Faithful
        (rollsWith arguments settings generator) ↔
      ∀ rolled ∈ rollsWith arguments settings generator,
        rolled.Told ∧ rolled.TotalsFit ∧ rolled.Verbatim console) ∧
    (Text.fits settings.maxDicePerSet = true →
      ∀ rolled ∈ rollsWith arguments settings generator, rolled.Told) := by
  refine ⟨?_, fun hceiling => told_of_mem_rolls hceiling hsound⟩
  rw [runWith_eq_report hsome]
  unfold rollsWith at hsound ⊢
  generalize generator (arguments.seed.or settings.seed) = source at hsound ⊢
  have hregular := regular_of_mem_rolls hsound
  constructor
  · rintro ⟨hunbroken, hlines, -⟩
    -- Nothing stopped the batch, so its lines can be compared expression by expression.
    have hpasses : ∀ rolled ∈ rolls settings.maxDicePerSet arguments.expressions source,
        rolled.Passes console := by
      by_contra hnot
      push Not at hnot
      obtain ⟨rolled, hrolled, hstops⟩ := hnot
      obtain ⟨halt, hhalt⟩ := exists_rollAll_stopped hascii hregular hrolled hstops
      simp [Block.report, hhalt, Ending.halt?] at hunbroken
    have htotals := fun rolled hrolled => (hpasses rolled hrolled).totalsFit
    obtain ⟨hshown, -⟩ := rollAll_of_passes hascii hregular hpasses
    rw [exists_prints_iff hregular htotals, Block.report, hshown,
      flatMap_eq_flatMap_iff fun rolled hrolled =>
        Rolled.length_shownLines (hpasses rolled hrolled)] at hlines
    exact fun rolled hrolled => ⟨(hpasses rolled hrolled).told, htotals rolled hrolled,
      Rolled.shownLines_eq_dueLines_iff.mp (hlines rolled hrolled)⟩
  · intro h
    have hpasses := fun rolled hrolled =>
      (h rolled hrolled).2.2.passes (h rolled hrolled).1 (h rolled hrolled).2.1
    have htotals := fun rolled hrolled => (h rolled hrolled).2.1
    obtain ⟨hshown, hending⟩ := rollAll_of_passes hascii hregular hpasses
    refine ⟨?_, ?_, ?_⟩
    · rw [Block.report, hending]
      split <;> rfl
    · rw [exists_prints_iff hregular htotals, Block.report, hshown,
        flatMap_eq_flatMap_iff fun rolled hrolled =>
          Rolled.length_shownLines (hpasses rolled hrolled)]
      exact fun rolled hrolled => Rolled.shownLines_eq_dueLines_iff.mpr (h rolled hrolled).2.2
    · rw [Block.report, hending]
      split <;> rfl

/-- The runs of one die that shows a four and of an expression that cannot be read. -/
theorem rolls_die_and_letter :
    rolls DieSet.defaultCeiling ["d6".toList, "d".toList] (.ofDraws [4]) =
      [⟨"d6".toList, .ok [{ outcomes := [{ kept := [4] }], total := 4 }], .spent,
        [.parsed "d6".toList ⟨[{ size := 6, signedCount := 1 }], []⟩, .drawn 1 6 4,
          .rolled { size := 6, signedCount := 1 } ⟨[4], []⟩]⟩,
        ⟨"d".toList, .error (.malformed ⟨"d".toList⟩), .spent, []⟩] := by
  have hd6 := Roll.expression_eq
    (by decide +kernel : Repetition.read "d6".toList = .ok ⟨"d6".toList, 1⟩)
    (by decide +kernel : Formula.parse "d6".toList = .ok ⟨[{ size := 6, signedCount := 1 }], []⟩)
    DieSet.defaultCeiling
  have hfirst : (Roll.expression "d6".toList DieSet.defaultCeiling).run (.ofDraws [4]) =
      ⟨.ok [{ outcomes := [{ kept := [4] }], total := 4 }], .spent,
        [.parsed "d6".toList ⟨[{ size := 6, signedCount := 1 }], []⟩, .drawn 1 6 4,
          .rolled { size := 6, signedCount := 1 } ⟨[4], []⟩]⟩ := by
    rw [hd6]
    cbv
  have hsecond := Roll.expression_eq_fail
    (by decide +kernel : Repetition.read "d".toList = .ok ⟨"d".toList, 1⟩)
    (by decide +kernel : Formula.parse "d".toList = .error ⟨"d".toList⟩) DieSet.defaultCeiling
  simp only [rolls, hfirst, hsecond, Roll.run_fail]

theorem faithful_runWith_die_and_letter :
    let arguments : Arguments := { expressions := ["d6".toList, "d".toList] }
    let generator (_ : Option Int) : Source := .ofDraws [4]
    Console.own.ShowsAscii ∧ (∀ rolled ∈ rollsWith arguments {} generator, rolled.Sound) ∧
      (runWith .own arguments {} generator).Faithful (rollsWith arguments {} generator) := by
  intro arguments generator
  have hrolls : rollsWith arguments {} generator = _ := rolls_die_and_letter
  have hsound : ∀ rolled ∈ rollsWith arguments {} generator, rolled.Sound := by
    simp only [hrolls, List.forall_mem_cons]
    exact ⟨⟨by simp [Event.InRange], by simp⟩, ⟨by simp, by simp⟩, by simp⟩
  obtain ⟨hiff, htold⟩ := faithful_runWith_iff Console.showsAscii_own
    (List.cons_ne_nil _ _ : arguments.expressions ≠ []) hsound
  have htold := htold (by decide)
  refine ⟨Console.showsAscii_own, hsound, hiff.mpr fun rolled hrolled => ⟨htold rolled hrolled, ?_⟩⟩
  revert rolled
  simp only [hrolls, List.forall_mem_cons]
  refine ⟨⟨?_, ?_⟩, ⟨?_, ?_⟩, by simp⟩
  · rintro _ ⟨⟩
    simp only [List.mem_singleton, forall_eq]
    decide
  · rintro _ ⟨⟩
  · rintro _ ⟨⟩
  · rintro _ ⟨⟩
    decide +kernel

/-! ### A batch that is cut short -/

/-- The greatest number that can be written. -/
@[irreducible] def greatest : Int := (10 ^ Text.maxDigits - 1 : Nat)

theorem greatest_lt : greatest.natAbs < 10 ^ Text.maxDigits := by
  rw [greatest, Int.natAbs_natCast]
  exact Nat.sub_lt (by positivity) Nat.one_pos

theorem fits_greatest : Text.fits greatest = true := Text.fits_iff.mpr greatest_lt

theorem not_fits_total : Text.fits (0 + greatest + greatest) ≠ true := by
  have hpow : 1 < 10 ^ Text.maxDigits := Nat.one_lt_pow (by decide) (by decide)
  have habs : (greatest + greatest).natAbs =
      (10 ^ Text.maxDigits - 1) + (10 ^ Text.maxDigits - 1) := by
    rw [greatest, ← Nat.cast_add, Int.natAbs_natCast]
  rw [ne_eq, zero_add, Text.fits_iff, habs]
  omega

/-- The greatest number that can be written, added to itself. -/
def longSum : Formula := { modifiers := [greatest, greatest] }

/-- The result of the sum. -/
def longResult : Result := { modifiers := [greatest, greatest], total := 0 + greatest + greatest }

theorem expressible_longSum : longSum.Expressible where
  ne_nil := by simp [longSum]
  sets := by simp [longSum]
  modifiers := by simp [longSum, fits_greatest]

theorem run_longSum (source : Source) :
    (Roll.expression longSum.write DieSet.defaultCeiling).run source =
      ⟨.ok [longResult], source, [.parsed longSum.write longSum]⟩ := by
  have hlower := Text.lower_of_isPlain longSum.isPlain_of_mem_write
  have hread := Repetition.read_of_not_mem (hlower.symm ▸ longSum.x_not_mem_write)
  rw [hlower] at hread
  have hwritable : (Event.parsed longSum.write longSum).isWritable = true := by
    simp [Event.isWritable, Event.numbers, longSum, fits_greatest]
  rw [Roll.expression_eq hread (Formula.parse_write expressible_longSum), Roll.run_bind,
    Roll.run_tell hwritable]
  rfl

/-- The sum, followed by a number. -/
def longBatch : List Text := [longSum.write, ['5']]

theorem exists_rollAll_longBatch (console : Console) :
    ∃ halt, (rollAll console DieSet.defaultCeiling longBatch .spent).ending = .stopped halt := by
  obtain ⟨halt, hhalt⟩ := @exists_rollOne_stopped console DieSet.defaultCeiling
    ⟨longSum.write, .ok [longResult], .spent, [.parsed longSum.write longSum]⟩ .spent
    (run_longSum .spent) fun hpasses => not_fits_total
      (hpasses.totalsFit [longResult] rfl longResult List.mem_cons_self)
  exact ⟨halt, by rw [longBatch, rollAll_cons_of_stopped hhalt, hhalt]⟩

theorem sound_longBatch :
    ∀ rolled ∈ rolls DieSet.defaultCeiling longBatch .spent, rolled.Sound := by
  have hfive : (Roll.expression ['5'] DieSet.defaultCeiling).run .spent =
      ⟨.ok [{ modifiers := [5], total := 5 }], .spent, [.parsed ['5'] ⟨[], [5]⟩]⟩ := by
    rw [Roll.expression_eq
      (by decide +kernel : Repetition.read ['5'] = .ok ⟨['5'], 1⟩)
      (by decide +kernel : Formula.parse ['5'] = .ok ⟨[], [5]⟩) DieSet.defaultCeiling]
    cbv
  simp only [longBatch, rolls, run_longSum, hfive, List.forall_mem_cons]
  exact ⟨⟨by simp [Event.InRange], by simp⟩, ⟨by simp [Event.InRange], by simp⟩, by simp⟩

/-- A batch whose first total is too long to be written stops there, although its draws are sound:
the other expression is left out, and the report is not faithful. -/
theorem not_faithful_longBatch :
    let arguments : Arguments := { expressions := longBatch }
    let generator (_ : Option Int) : Source := .spent
    Console.own.ShowsAscii ∧ (∀ rolled ∈ rollsWith arguments {} generator, rolled.Sound) ∧
      ¬ (runWith .own arguments {} generator).Faithful (rollsWith arguments {} generator) := by
  intro arguments generator
  refine ⟨Console.showsAscii_own, sound_longBatch, fun hfaithful => ?_⟩
  have hunbroken := hfaithful.unbroken
  obtain ⟨halt, hhalt⟩ := exists_rollAll_longBatch .own
  have hsome : arguments.expressions ≠ [] := List.cons_ne_nil _ _
  have hhalted : (runWith .own arguments {} generator).halt = some halt := by
    rw [runWith_eq_report hsome]
    exact congrArg Ending.halt? hhalt
  cases hunbroken.symm.trans hhalted

end Command

end DiceRoll
