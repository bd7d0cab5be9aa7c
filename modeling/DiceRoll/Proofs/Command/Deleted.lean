import DiceRoll.Main.Markup
import DiceRoll.Proofs.Command.Batch
import DiceRoll.Proofs.Roll.Unreadable
import Mathlib

/-!
# Unreadable expressions do not disturb the others

The work on a batch falls into pieces, one for each expression up to the first that stops the
command. If the console can show the complaint about an unreadable expression, its piece is that
complaint alone and leaves the source as it was. So when such expressions are deleted from the batch
the pieces of the others stay the same, be it that one of them stops the command.
-/

namespace DiceRoll

/-- The bounds and the answer of an event that is a draw. -/
def Event.draw? : Event → Option (Int × Int × Int)
  | .drawn lo hi value => some (lo, hi, value)
  | _ => none

namespace Command

/-- The draws that were made, in order. -/
def Report.draws (report : Report) : List (Int × Int × Int) :=
  report.events.filterMap Event.draw?

/-- The warnings that were logged, in order. -/
def Report.warnings (report : Report) : List Message :=
  report.log.filter (·.level = .warning)

/-! ### Batches in pieces -/

/-- An expression of a batch, and whether it stays when others are deleted. -/
structure Item where
  expression : Text
  stays : Bool

/-- The work on one expression of a batch. -/
structure Piece where
  item : Item
  block : Block

/-- The console can show the complaint about an expression, if the expression cannot be read. -/
def Console.Reports (console : Console) (expression : Text) : Prop :=
  ∀ ceiling source fault,
    ((Roll.expression expression ceiling).run source).outcome = .error (.malformed fault) →
      (console.showError (complaint expression (.malformed fault))).isSome = true

/-- The work on the expression is to complain that it cannot be read. -/
def Piece.IsComplaint (console : Console) (piece : Piece) : Prop :=
  ∃ fault shown,
    console.showError (complaint piece.item.expression (.malformed fault)) = some shown ∧
    piece.block.lines = [shown] ∧
    piece.block.events = [.skipped piece.item.expression (.malformed fault)]

/-- The work on a batch, piece by piece, up to the first that stops the command. -/
def pieces (console : Console) (ceiling : Int) : List Item → Source → List Piece
  | [], _ => []
  | first :: rest, source =>
    let block := rollOne console ceiling first.expression source
    ⟨first, block⟩ ::
      match block.ending with
      | .stopped _ => []
      | _ => pieces console ceiling rest block.source

variable {console : Console} {ceiling : Int} {batch : List Item} {source : Source}

theorem Ending.stopped_or_goes (ending : Ending) :
    (∃ halt, ending = .stopped halt) ∨ ∀ halt, ending ≠ .stopped halt := by
  rw [← not_exists]
  exact Classical.em _

theorem pieces_cons_of_stopped {first : Item} {rest : List Item} {halt : Halt}
    (h : (rollOne console ceiling first.expression source).ending = .stopped halt) :
    pieces console ceiling (first :: rest) source =
      [⟨first, rollOne console ceiling first.expression source⟩] := by
  simp only [pieces, h]

theorem pieces_cons {first : Item} {rest : List Item}
    (h : ∀ halt, (rollOne console ceiling first.expression source).ending ≠ .stopped halt) :
    pieces console ceiling (first :: rest) source =
      ⟨first, rollOne console ceiling first.expression source⟩ ::
        pieces console ceiling rest (rollOne console ceiling first.expression source).source := by
  rw [pieces]
  split
  · exact absurd ‹_› (h _)
  · rfl

/-- The pieces of a batch are of its expressions in order. -/
theorem map_item_pieces (console : Console) (ceiling : Int) (batch : List Item) (source : Source) :
    (pieces console ceiling batch source).map Piece.item <+: batch := by
  induction batch generalizing source with
  | nil => exact List.prefix_rfl
  | cons first rest ih =>
    rw [pieces, List.map_cons, List.prefix_cons_inj]
    split
    · exact List.nil_prefix
    · exact ih _

/-- What a batch prints and tells is what its pieces do. -/
theorem rollAll_eq_pieces (console : Console) (ceiling : Int) (batch : List Item)
    (source : Source) :
    let whole := rollAll console ceiling (batch.map Item.expression) source
    whole.lines = (pieces console ceiling batch source).flatMap (·.block.lines) ∧
      whole.events = (pieces console ceiling batch source).flatMap (·.block.events) := by
  induction batch generalizing source with
  | nil => exact ⟨rfl, rfl⟩
  | cons first rest ih =>
    rcases (rollOne console ceiling first.expression source).ending.stopped_or_goes with
      ⟨halt, hstops⟩ | hgoes
    · rw [List.map_cons, rollAll_cons_of_stopped hstops, pieces_cons_of_stopped hstops]
      simp
    · obtain ⟨hlines, hevents⟩ := ih (rollOne console ceiling first.expression source).source
      rw [List.map_cons, rollAll_cons hgoes, pieces_cons hgoes]
      simp [hlines, hevents]

/-! ### Deleting unreadable expressions -/

/-- The work on an unreadable expression is to complain of it, and it draws nothing. -/
theorem exists_rollOne_eq {expression : Text} (h : Roll.Unreadable expression)
    (hreports : console.Reports expression) :
    ∃ fault shown, console.showError (complaint expression (.malformed fault)) = some shown ∧
      ∀ ceiling source, rollOne console ceiling expression source =
        { lines := [shown]
          events := [.skipped expression (.malformed fault)]
          source
          ending := .reported } := by
  obtain ⟨fault, hfail⟩ := h.exists_expression_eq_fail
  have hrun (ceiling : Int) (source : Source) :
      (Roll.expression expression ceiling).run source =
        ⟨.error (.malformed fault), source, []⟩ := by
    rw [hfail, Roll.run_fail]
  obtain ⟨shown, hshown⟩ := Option.isSome_iff_exists.mp
    (hreports DieSet.defaultCeiling .spent fault (by rw [hrun]))
  refine ⟨fault, shown, hshown, fun ceiling source => ?_⟩
  rw [rollOne, hrun]
  dsimp only
  rw [hshown]
  rfl

/-- Every expression that does not stay is unreadable, and the console can say so. -/
def OnlyUnreadableGo (console : Console) (batch : List Item) : Prop :=
  ∀ item ∈ batch, item.stays = false →
    Roll.Unreadable item.expression ∧ console.Reports item.expression

/-- The pieces of a batch without unreadable expressions are those of the whole batch, without the
pieces of these expressions. -/
theorem pieces_filter (h : OnlyUnreadableGo console batch) :
    pieces console ceiling (batch.filter Item.stays) source =
      (pieces console ceiling batch source).filter (·.item.stays) := by
  induction batch generalizing source with
  | nil => rfl
  | cons first rest ih =>
    obtain ⟨hfirst, hrest⟩ := List.forall_mem_cons.mp h
    cases hstays : first.stays with
    | true =>
      rw [List.filter_cons_of_pos hstays]
      rcases (rollOne console ceiling first.expression source).ending.stopped_or_goes with
        ⟨halt, hstops⟩ | hgoes
      · rw [pieces_cons_of_stopped hstops, pieces_cons_of_stopped hstops]
        simp [hstays]
      · rw [pieces_cons hgoes, pieces_cons hgoes, ih hrest,
          List.filter_cons_of_pos (by exact hstays)]
    | false =>
      -- The complaint leaves the source as it was: the expressions behind it go on as without it.
      obtain ⟨hunreadable, hreports⟩ := hfirst hstays
      obtain ⟨fault, shown, -, hblock⟩ := exists_rollOne_eq hunreadable hreports
      rw [List.filter_cons_of_neg (by simp [hstays]), pieces_cons (by simp [hblock]),
        List.filter_cons_of_neg (by simp [hstays]), ih hrest, hblock]

theorem isComplaint_rollOne {item : Item} (h : Roll.Unreadable item.expression)
    (hreports : console.Reports item.expression) (ceiling : Int) (source : Source) :
    Piece.IsComplaint console ⟨item, rollOne console ceiling item.expression source⟩ := by
  obtain ⟨fault, shown, hshown, hblock⟩ := exists_rollOne_eq h hreports
  exact ⟨fault, shown, hshown, by rw [hblock], by rw [hblock]⟩

/-- The pieces of deleted expressions are complaints. -/
theorem isComplaint_of_mem_pieces (h : OnlyUnreadableGo console batch) :
    ∀ piece ∈ pieces console ceiling batch source,
      piece.item.stays = false → piece.IsComplaint console := by
  induction batch generalizing source with
  | nil => simp [pieces]
  | cons first rest ih =>
    obtain ⟨hfirst, hrest⟩ := List.forall_mem_cons.mp h
    rw [pieces, List.forall_mem_cons]
    refine ⟨fun hstays => ?_, ?_⟩
    · exact isComplaint_rollOne (hfirst hstays).1 (hfirst hstays).2 ceiling source
    · split
      · simp
      · exact ih hrest

/-! ### Endings -/

/-- Work stops where its first part stops, and otherwise where the second does. -/
theorem Ending.halt?_then (first rest : Ending) :
    (first.then rest).halt? = first.halt?.or rest.halt? := by
  cases first <;> cases rest <;> rfl

/-- Only where its first part is done does the exit code depend on the second. -/
theorem Ending.exitCode_then (first rest : Ending) :
    (first.then rest).exitCode = if first = .done then rest.exitCode else 1 := by
  cases first <;> cases rest <;> rfl

/-- Without the unreadable expressions a batch stops as it does with them, and where one of them is
deleted the exit code was one. -/
theorem ending_rollAll_filter (h : OnlyUnreadableGo console batch) :
    let whole := (rollAll console ceiling (batch.map Item.expression) source).ending
    let rest :=
      (rollAll console ceiling ((batch.filter Item.stays).map Item.expression) source).ending
    whole.halt? = rest.halt? ∧
      whole.exitCode = if batch.all Item.stays then rest.exitCode else 1 := by
  induction batch generalizing source with
  | nil => exact ⟨rfl, rfl⟩
  | cons first rest ih =>
    obtain ⟨hfirst, hrest⟩ := List.forall_mem_cons.mp h
    obtain ⟨hhalt, hexit⟩ := @ih (rollOne console ceiling first.expression source).source hrest
    cases hstays : first.stays with
    | true =>
      rw [List.filter_cons_of_pos hstays, List.map_cons, List.map_cons, List.all_cons, hstays,
        Bool.true_and]
      rcases (rollOne console ceiling first.expression source).ending.stopped_or_goes with
        ⟨halt, hstops⟩ | hgoes
      · rw [rollAll_cons_of_stopped hstops, rollAll_cons_of_stopped hstops, hstops]
        exact ⟨rfl, by split <;> rfl⟩
      · rw [rollAll_cons hgoes, rollAll_cons hgoes]
        simp only [Ending.halt?_then, Ending.exitCode_then, hhalt, hexit]
        refine ⟨trivial, ?_⟩
        split <;> split <;> rfl
    | false =>
      obtain ⟨hunreadable, hreports⟩ := hfirst hstays
      obtain ⟨fault, shown, -, hblock⟩ := exists_rollOne_eq hunreadable hreports
      rw [hblock] at hhalt
      rw [List.filter_cons_of_neg (by simp [hstays]), List.map_cons,
        rollAll_cons (by simp [hblock])]
      simp only [hblock, Ending.halt?_then, Ending.exitCode_then, hhalt]
      exact ⟨rfl, by simp [hstays]⟩

/-! ### Reports -/

/-- Two reports that differ by complaints alone: one on the pieces of a whole batch, and the other
on those of them that stay. -/
structure Undisturbed (console : Console) (batch : List Item) (pieces : List Piece)
    (whole rest : Report) : Prop where
  /-- The pieces are of the expressions up to some point of the batch. -/
  items : pieces.map Piece.item <+: batch
  whole_lines : whole.lines = pieces.flatMap (·.block.lines)
  rest_lines : rest.lines = (pieces.filter (·.item.stays)).flatMap (·.block.lines)
  whole_events : whole.events = pieces.flatMap (·.block.events)
  rest_events : rest.events = (pieces.filter (·.item.stays)).flatMap (·.block.events)
  complaints : ∀ piece ∈ pieces, piece.item.stays = false → piece.IsComplaint console
  generator : whole.generator = rest.generator
  verbose : whole.verbose = rest.verbose
  halt : whole.halt = rest.halt
  draws : whole.draws = rest.draws
  warnings : whole.warnings = rest.warnings
  exitCode : whole.exitCode = if batch.all Item.stays then rest.exitCode else 1

/-- What is read off the events of pieces does not depend on complaints, if it passes over them. -/
theorem filterMap_events_filter {α : Type} {f : Event → Option α}
    (hf : ∀ expression fault, f (.skipped expression fault) = none) {pieces : List Piece}
    (h : ∀ piece ∈ pieces, piece.item.stays = false → piece.IsComplaint console) :
    ((pieces.filter (·.item.stays)).flatMap (·.block.events)).filterMap f =
      (pieces.flatMap (·.block.events)).filterMap f := by
  induction pieces with
  | nil => rfl
  | cons first rest ih =>
    obtain ⟨hfirst, hrest⟩ := List.forall_mem_cons.mp h
    cases hstays : first.item.stays with
    | true =>
      rw [List.filter_cons_of_pos (by exact hstays), List.flatMap_cons, List.flatMap_cons,
        List.filterMap_append, List.filterMap_append, ih hrest]
    | false =>
      obtain ⟨fault, -, -, -, hevents⟩ := hfirst hstays
      rw [List.filter_cons_of_neg (by simp [hstays]), ih hrest, List.flatMap_cons, hevents]
      simp [hf]

/-- Warnings are logged whether or not other messages are. -/
theorem Report.warnings_eq (report : Report) :
    report.warnings = report.events.filterMap fun event =>
      (Message.ofEvent? event).filter (·.level = .warning) := by
  have hlevel (message : Message) : (decide (message.level = .warning) &&
      (report.verbose || decide (message.level = .warning))) =
        decide (message.level = .warning) := by
    cases report.verbose <;> simp
  rw [warnings, log, Message.ofEvents, List.filter_filter, List.filter_filterMap]
  simp only [hlevel]

/-- Deleting unreadable expressions from a batch, but not all there is, does not disturb the others:
what is printed, drawn and told for them is the same, and so is how the command stops. -/
theorem undisturbed_runWith {batch : List Item} (arguments : Arguments) (settings : Settings)
    (generator : Option Int → Source) (hsome : ∃ item ∈ batch, item.stays = true)
    (hdeleted : ∀ item ∈ batch, item.stays = false → Roll.Unreadable item.expression)
    (hreports : ∀ item ∈ batch, item.stays = false → console.Reports item.expression) :
    Undisturbed console batch
      (pieces console settings.maxDicePerSet batch (generator (arguments.seed.or settings.seed)))
      (runWith console { arguments with expressions := batch.map Item.expression } settings
        generator)
      (runWith console
        { arguments with expressions := (batch.filter Item.stays).map Item.expression } settings
        generator) := by
  obtain ⟨item, hitem, hstays⟩ := hsome
  have hgo : OnlyUnreadableGo console batch := fun item hitem hstays =>
    ⟨hdeleted item hitem hstays, hreports item hitem hstays⟩
  have hwhole : batch.map Item.expression ≠ [] := by
    simpa using List.ne_nil_of_mem hitem
  have hrest : (batch.filter Item.stays).map Item.expression ≠ [] := by
    simpa using List.ne_nil_of_mem (List.mem_filter.mpr ⟨hitem, hstays⟩)
  rw [runWith_eq_report hwhole, runWith_eq_report hrest]
  generalize generator (arguments.seed.or settings.seed) = source
  have hcomplaints := @isComplaint_of_mem_pieces console settings.maxDicePerSet batch source hgo
  obtain ⟨hlines, hevents⟩ := rollAll_eq_pieces console settings.maxDicePerSet batch source
  obtain ⟨hlines', hevents'⟩ :=
    rollAll_eq_pieces console settings.maxDicePerSet (batch.filter Item.stays) source
  rw [pieces_filter hgo] at hlines' hevents'
  have hread {α : Type} {f : Event → Option α}
      (hf : ∀ expression fault, f (.skipped expression fault) = none) :
      (rollAll console settings.maxDicePerSet (batch.map Item.expression) source).events.filterMap
          f =
        (rollAll console settings.maxDicePerSet ((batch.filter Item.stays).map Item.expression)
          source).events.filterMap f := by
    rw [hevents, hevents', filterMap_events_filter hf hcomplaints]
  obtain ⟨hhalt, hexit⟩ := @ending_rollAll_filter console settings.maxDicePerSet batch source hgo
  exact {
    items := map_item_pieces _ _ _ _
    whole_lines := hlines
    rest_lines := hlines'
    whole_events := hevents
    rest_events := hevents'
    complaints := hcomplaints
    generator := rfl
    verbose := rfl
    halt := hhalt
    draws := hread fun _ _ => rfl
    warnings := by
      rw [Report.warnings_eq, Report.warnings_eq]
      exact hread fun _ _ => rfl
    exitCode := hexit }

/-- A batch of two dice with something unreadable between them, which goes. -/
def dieLetterDie : List Item :=
  [⟨"d6".toList, true⟩, ⟨"d".toList, false⟩, ⟨"d4".toList, true⟩]

/-- Without what is unreadable the two dice show the same faces. -/
theorem undisturbed_dieLetterDie :
    Undisturbed .own dieLetterDie (pieces .own DieSet.defaultCeiling dieLetterDie (.ofDraws [5, 2]))
      (runWith .own { expressions := ["d6".toList, "d".toList, "d4".toList] } {} fun _ =>
        .ofDraws [5, 2])
      (runWith .own { expressions := ["d6".toList, "d4".toList] } {} fun _ => .ofDraws [5, 2]) := by
  have hletter : Roll.Unreadable "d".toList :=
    ⟨DieSet.defaultCeiling, .spent, ⟨"d".toList⟩, rfl⟩
  refine @undisturbed_runWith .own dieLetterDie {} {} (fun _ => .ofDraws [5, 2]) ?_ ?_ ?_
  · simp [dieLetterDie]
  · simpa [dieLetterDie] using hletter
  · exact fun _ _ _ _ _ _ _ => rfl

end Command

end DiceRoll
