import DiceRoll.Command.Run
import DiceRoll.Proofs.Command.Batch
import DiceRoll.Proofs.Main.Arguments
import DiceRoll.Proofs.Roll.Repeated

/-!
# Readable expressions among the arguments

A readable expression is spelled with glyphs and at most one letter x. Every name of an option holds
one of the letters s and h, every letter of one is s or v, and two dashes alone are not readable. So
no readable expression is taken for an option or for the separator, with however many dashes it
begins, by a reader that ignores unknown options. The command rolls such arguments as they stand.
-/

namespace DiceRoll

/-! ### How readable expressions are spelled -/

/-- An expression that was split is its formula in lower case, with or without a count behind it. -/
theorem Repetition.lower_eq_of_read {written : Text} {repetition : Repetition}
    (h : read written = .ok repetition) :
    Text.lower written = repetition.formula ∨
      ∃ count, Text.literal? count = some repetition.times ∧
        Text.lower written = repetition.formula ++ 'x' :: count := by
  rw [read] at h
  split at h
  · rename_i formula heq
    cases h
    exact .inl (span_ne_eq_nil_iff.mp heq).2.symm
  · rename_i formula c count heq
    obtain ⟨rfl, -, hsplit⟩ := span_ne_eq_cons_iff.mp heq
    split at h
    · rename_i times hcount
      cases h
      exact .inr ⟨count, hcount, hsplit⟩
    · cases h

namespace Roll

/-- Whether an expression can be read: its count, if it has one, and its formula. -/
def Readable (written : Text) : Prop :=
  ∃ repetition formula, Repetition.read written = .ok repetition ∧
    Formula.parse repetition.formula = .ok formula

namespace Readable

variable {written : Text}

/-- In lower case a readable expression is spelled with glyphs and the letter x. -/
theorem isGlyph_or_eq_x (h : Readable written) :
    ∀ c ∈ Text.lower written, Text.isGlyph c = true ∨ c = 'x' := by
  obtain ⟨repetition, formula, hread, hparse⟩ := h
  have hcapital : ∀ c ∈ Text.lower written, Text.isCapital c = false :=
    Text.isCapital_of_mem_lowerFrom
  have hglyph (hformula : ∀ c ∈ repetition.formula, Text.isCapital c = false) :
      ∀ c ∈ repetition.formula, Text.isGlyph c = true :=
    Text.isGlyph_of_lowerFrom (Formula.isGlyph_of_mem_lower hparse) hformula
  rcases Repetition.lower_eq_of_read hread with heq | ⟨count, hcount, heq⟩
  · rw [heq] at hcapital ⊢
    exact fun c hc => .inl (hglyph hcapital c hc)
  · rw [heq, List.forall_mem_append] at hcapital
    rw [heq, List.forall_mem_append, List.forall_mem_cons]
    exact ⟨fun c hc => .inl (hglyph hcapital.1 c hc), .inr rfl,
      fun c hc => .inl (Text.isGlyph_of_literal? hcount c hc)⟩

/-- No small letter but d, e, m, r and x is in a readable expression. -/
theorem not_mem (h : Readable written) {c : Char} (hplain : Text.isPlain c = true)
    (hglyph : Text.isGlyph c = false) (hx : c ≠ 'x') : c ∉ written := by
  intro hc
  have hne {other : Char} (hother : Text.isPlain other = false) : c ≠ other := by
    rintro rfl
    rw [hplain] at hother
    cases hother
  have hlower := Text.lowerChar_mem_lowerFrom hc (hne (by decide)) (hne (by decide)) false
  rw [Text.lowerChar_of_isPlain hplain] at hlower
  rcases h.isGlyph_or_eq_x c hlower with hc' | hc'
  · rw [hglyph] at hc'
    cases hc'
  · exact hx hc'

/-- Two dashes alone are not readable. -/
theorem ne_dashes (h : Readable written) : written ≠ ['-', '-'] := by
  rintro rfl
  obtain ⟨repetition, formula, hread, hparse⟩ := h
  have hdashes : Repetition.read ['-', '-'] = .ok ⟨['-', '-'], 1⟩ := by decide +kernel
  cases hdashes.symm.trans hread
  have hnothing : Formula.parse ['-', '-'] = .error ⟨[]⟩ := by decide +kernel
  cases hnothing.symm.trans hparse

end Readable

end Roll

/-! ### Arguments without options -/

namespace Command

/-- Every name of an option holds a letter that no readable expression holds. -/
theorem exists_mem_of_mem_optionNames {name : Text} (h : name ∈ optionNames) :
    ∃ c ∈ name, c = 's' ∨ c = 'h' := by
  simp only [optionNames, List.map_cons, List.map_nil, List.mem_cons, List.not_mem_nil,
    or_false] at h
  rcases h with rfl | rfl | rfl
  · exact ⟨'s', by decide, .inl rfl⟩
  · exact ⟨'s', by decide, .inl rfl⟩
  · exact ⟨'h', by decide, .inr rfl⟩

namespace Reader

variable {reader : Reader}

/-- A reader that ignores unknown options takes readable expressions as they stand. -/
theorem IgnoresUnknown.takesAsExpression (h : reader.IgnoresUnknown) {written : Text}
    (hreadable : Roll.Readable written) : reader.TakesAsExpression written := by
  have hs : 's' ∉ written := hreadable.not_mem (by decide) (by decide) (by decide)
  have hv : 'v' ∉ written := hreadable.not_mem (by decide) (by decide) (by decide)
  have hh : 'h' ∉ written := hreadable.not_mem (by decide) (by decide) (by decide)
  rcases written with _ | ⟨first, rest⟩
  · exact h.plain [] (by simp)
  by_cases hfirst : first = '-'
  · subst hfirst
    by_cases hsecond : rest.head? = some '-'
    · obtain ⟨name, rfl⟩ := List.head?_eq_some_iff.mp hsecond
      refine h.name name (fun hnil => hreadable.ne_dashes (by rw [hnil])) fun hname => ?_
      obtain ⟨c, hc, hletter⟩ := exists_mem_of_mem_optionNames hname
      have hmem : c ∈ '-' :: '-' :: name :=
        List.mem_cons_of_mem _ (List.mem_cons_of_mem _ ((List.takeWhile_sublist _).subset hc))
      rcases hletter with rfl | rfl
      · exact hs hmem
      · exact hh hmem
    · refine h.letters rest hsecond fun letter hletter hoption => ?_
      have hmem : letter ∈ '-' :: rest := List.mem_cons_of_mem _ hletter
      simp only [optionLetters, List.mem_cons, List.not_mem_nil, or_false] at hoption
      rcases hoption with rfl | rfl
      · exact hs hmem
      · exact hv hmem
  · exact h.plain (first :: rest) (by simpa using hfirst)

/-- Readable expressions are all that such a reader finds, in their order. -/
theorem IgnoresUnknown.read_of_readable (h : reader.IgnoresUnknown) {arguments : List Text}
    (hreadable : ∀ written ∈ arguments, Roll.Readable written) :
    reader.read arguments = .ok { expressions := arguments } := by
  induction arguments with
  | nil => exact h.nothing
  | cons first rest ih =>
    obtain ⟨hfirst, hrest⟩ := List.forall_mem_cons.mp hreadable
    rw [h.takesAsExpression hfirst, ih hrest]
    rfl

end Reader

/-- Readable expressions are the whole of what the arguments ask for, and the command rolls them as
they are written, in their order, with the seed and the wish for messages of the settings. -/
theorem run_of_readable {platform : Platform} (hreader : platform.reader.IgnoresUnknown)
    {arguments : List Text} (hsome : arguments ≠ [])
    (h : ∀ written ∈ arguments, Roll.Readable written) (sources : Settings.Sources)
    (generator : Option Int → Source) :
    platform.reader.read arguments =
        .ok { expressions := arguments, seed := none, verbose := false } ∧
      ∀ settings, platform.evaluator.evaluate sources = .ok settings →
        platform.run arguments sources generator =
          (rollAll platform.console settings.maxDicePerSet arguments
            (generator settings.seed)).report settings.seed settings.debug := by
  have hread := hreader.read_of_readable h
  refine ⟨hread, fun settings hsettings => ?_⟩
  rw [Platform.run, hread]
  dsimp only
  rw [hsettings]
  exact runWith_eq_report hsome platform.console settings generator

/-- Subtracted dice behind one dash, behind two and behind a number are rolled as they are written.
-/
theorem run_of_dashes :
    let arguments := ["-D6".toList, "--2d20d-1+3 X2".toList, "5-d4".toList]
    let generator (_ : Option Int) : Source := .ofDraws [3, 20, 7, 1, 2, 4]
    Platform.own.reader.IgnoresUnknown ∧ arguments ≠ [] ∧
      (∀ written ∈ arguments, Roll.Readable written) ∧
      Platform.own.reader.read arguments = .ok { expressions := arguments } ∧
      Platform.own.run arguments {} generator =
        (rollAll .own DieSet.defaultCeiling arguments (generator none)).report none false := by
  intro arguments generator
  have hone : Roll.Readable "-D6".toList :=
    ⟨⟨"-d6".toList, 1⟩, ⟨[{ size := 6, signedCount := -1 }], []⟩, by decide +kernel,
      by decide +kernel⟩
  have htwo : Roll.Readable "--2d20d-1+3 X2".toList :=
    ⟨⟨"--2d20d-1+3 ".toList, 2⟩, ⟨[{ size := 20, signedCount := -2, drop := -1 }], [3]⟩,
      by decide +kernel, by decide +kernel⟩
  have hbehind : Roll.Readable "5-d4".toList :=
    ⟨⟨"5-d4".toList, 1⟩, ⟨[{ size := 4, signedCount := -1 }], [5]⟩, by decide +kernel,
      by decide +kernel⟩
  have hsome : arguments ≠ [] := List.cons_ne_nil _ _
  have hreadable : ∀ written ∈ arguments, Roll.Readable written := by
    simpa [arguments] using ⟨hone, htwo, hbehind⟩
  have hreader : Platform.own.reader.IgnoresUnknown := Reader.ignoresUnknown_own
  obtain ⟨hread, hrun⟩ := run_of_readable hreader hsome hreadable {} generator
  exact ⟨hreader, hsome, hreadable, hread, hrun {} rfl⟩

end Command

end DiceRoll
