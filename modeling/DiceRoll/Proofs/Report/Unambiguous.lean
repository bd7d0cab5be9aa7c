import DiceRoll.Proofs.Report.Total

/-!
# What a line tells

Two results have the same line exactly when they agree on what the line shows: the total, the signs
of the sets, the absolute values that were kept and dropped, and the modifiers. A line leaves open
whether a zero is a modifier, the sign of each single value, and which set it is that dropped dice
when only one did.
-/

namespace DiceRoll

open Text (OpensWith Shows ofInt)

/-- The absolute values that a set dropped. -/
def Outcome.droppedMagnitudes (outcome : Outcome) : List Nat :=
  outcome.dropped.map Int.natAbs

/-- Whether a summand is a group. -/
def Summand.isGroup : Summand → Bool
  | number _ => false
  | group _ => true

/-- Both sets are added or both are subtracted, and they kept the same absolute values. -/
structure Outcome.KeptAlike (outcome other : Outcome) : Prop where
  negative : outcome.negative = other.negative
  kept : outcome.kept.map Int.natAbs = other.kept.map Int.natAbs

namespace Result

/-- The outcomes of the sets that dropped a die. -/
def dropping (result : Result) : List Outcome :=
  result.outcomes.filter fun outcome => !outcome.dropped.isEmpty

/-- Neither result has dropped values, or one set of each dropped dice, with the same absolute
values, or at least two sets of each did, and the absolute values agree set by set. -/
inductive DropsAlike (result other : Result) : Prop where
  | nothing (h : result.dropping = []) (hother : other.dropping = [])
  | one {outcome otherOutcome : Outcome} (h : result.dropping = [outcome])
      (hother : other.dropping = [otherOutcome])
      (hdropped : outcome.droppedMagnitudes = otherOutcome.droppedMagnitudes)
  | several (h : 2 ≤ result.dropCount) (hother : 2 ≤ other.dropCount)
      (hdropped : result.outcomes.map Outcome.droppedMagnitudes =
        other.outcomes.map Outcome.droppedMagnitudes)

/-- The results agree on all that a line shows of them. -/
structure LooksLike (result other : Result) : Prop where
  total : result.total = other.total
  outcomes : List.Forall₂ Outcome.KeptAlike result.outcomes other.outcomes
  modifiers : result.modifiers = other.modifiers ∨
    result.modifiers = [] ∧ other.modifiers = [0] ∨ result.modifiers = [0] ∧ other.modifiers = []
  dropped : DropsAlike result other

variable {result other : Result}

/-! ### The details -/

theorem keptSummand_eq_iff {outcome other : Outcome} :
    keptSummand outcome = keptSummand other ↔ outcome.KeptAlike other := by
  have hkept : (outcome.kept.map fun value => (value.natAbs : Int)) =
      (other.kept.map fun value => (value.natAbs : Int)) ↔
      outcome.kept.map Int.natAbs = other.kept.map Int.natAbs := by
    rw [← (List.map_injective_iff.mpr Int.ofNat_injective).eq_iff, List.map_map, List.map_map]
    rfl
  rw [keptSummand, keptSummand, Prod.mk.injEq, Summand.group.injEq, hkept]
  constructor
  · rintro ⟨hnegative, hkept⟩
    refine ⟨?_, hkept⟩
    cases h : outcome.negative <;> cases h' : other.negative <;> simp_all
  · rintro ⟨hnegative, hkept⟩
    exact ⟨by rw [hnegative], hkept⟩

theorem modifierSummand_injective : Function.Injective modifierSummand := by
  intro value other h
  rw [← apply_value_modifierSummand value, h, apply_value_modifierSummand]

/-- The groups come before the numbers, so that it is clear where the one list ends. -/
theorem summands_eq_iff :
    result.summands = other.summands ↔
      List.Forall₂ Outcome.KeptAlike result.outcomes other.outcomes ∧
        result.shownModifiers = other.shownModifiers := by
  have hgroups : result.outcomes.map keptSummand = other.outcomes.map keptSummand ↔
      List.Forall₂ Outcome.KeptAlike result.outcomes other.outcomes := by
    rw [map_eq_map_iff_forall₂]
    simp only [keptSummand_eq_iff]
  rw [← hgroups, ← (List.map_injective_iff.mpr modifierSummand_injective).eq_iff]
  constructor
  · intro h
    apply List.append_inj h
    have hcount := congrArg (List.countP fun signed => signed.2.isGroup) h
    simpa [summands, List.countP_append, List.countP_map, Function.comp_def, keptSummand,
      modifierSummand, Summand.isGroup] using hcount
  · rintro ⟨hkept, hmodifiers⟩
    rw [summands, hkept, hmodifiers, summands]

/-- Without modifiers a zero is shown, and so it is for a single zero. -/
theorem shownModifiers_eq_iff :
    result.shownModifiers = other.shownModifiers ↔
      result.modifiers = other.modifiers ∨ result.modifiers = [] ∧ other.modifiers = [0] ∨
        result.modifiers = [0] ∧ other.modifiers = [] := by
  unfold shownModifiers
  cases result.modifiers with
  | nil => cases other.modifiers <;> simp [eq_comm]
  | cons first rest => cases other.modifiers <;> simp

/-- The details show the summands. -/
theorem detailsText_eq_iff (h : result.DetailsFit) (hother : other.DetailsFit) :
    result.detailsText = other.detailsText ↔ result.summands = other.summands := by
  constructor
  · intro htext
    rw [detailsText_eq_write h, detailsText_eq_write hother] at htext
    have hread := Breakdown.read?_write (plain_of_mem_summands h)
    rw [htext, Breakdown.read?_write (plain_of_mem_summands hother)] at hread
    exact (Option.some.inj hread).symm
  · intro hsummands
    rw [detailsText_eq_write h, detailsText_eq_write hother, hsummands]

/-! ### The dropped values -/

theorem shows_magnitude : Shows ',' (fun value : Int => ofInt value.natAbs) Int.natAbs := by
  intro value other rest more hrest hmore h
  have hcomma (n : Int) : ',' ∉ ofInt n := Text.not_mem_ofInt (by decide) (by decide)
  obtain ⟨htext, hend⟩ := Text.append_inj_of_opensWith (hcomma _) (hcomma _) hrest hmore h
  exact ⟨Int.ofNat_inj.mp (Text.ofInt_injective htext), hend⟩

theorem not_mem_magnitudesText {c : Char} (hcomma : c ≠ ',') (hdigit : c.isDigit = false)
    (values : List Int) : c ∉ magnitudesText [','] values := by
  intro hmem
  let members := values.map fun value => (value.natAbs : Int)
  have hnonneg : ∀ member ∈ members, 0 ≤ member := by simp [members]
  have hjoined : c ∈ [','].intercalate (members.map ofInt) := by rwa [List.map_map]
  rcases Text.isDigit_of_mem_intercalate hnonneg hjoined with h | h
  · exact hcomma h
  · simp [hdigit] at h

/-- The values that a set dropped, in brackets. -/
def dropGroup (outcome : Outcome) : Text :=
  '[' :: magnitudesText [','] outcome.dropped ++ [']']

theorem magnitudesText_eq_iff {values others : List Int} :
    magnitudesText [','] values = magnitudesText [','] others ↔
      values.map Int.natAbs = others.map Int.natAbs := by
  constructor
  · intro h
    exact shows_magnitude.map_eq_of_intercalate (fun _ => Text.ofInt_ne_nil _) h
  · intro h
    have htexts := congrArg (List.map fun n : Nat => ofInt n) h
    rw [List.map_map, List.map_map] at htexts
    exact congrArg [','].intercalate htexts

theorem shows_dropGroup : Shows ',' dropGroup Outcome.droppedMagnitudes := by
  intro outcome other rest more _ _ h
  have hclosing (values : List Int) : ']' ∉ magnitudesText [','] values :=
    not_mem_magnitudesText (by decide) (by decide) values
  simp only [dropGroup, List.cons_append, List.append_assoc, List.nil_append, List.cons.injEq,
    true_and] at h
  obtain ⟨hvalues, hend⟩ := Text.append_inj_of_opensWith (hclosing _) (hclosing _)
    (Text.opensWith_cons ']' rest) (Text.opensWith_cons ']' more) h
  exact ⟨magnitudesText_eq_iff.mp hvalues, (List.cons.inj hend).2⟩

theorem dropGroup_eq {outcome other : Outcome}
    (h : outcome.droppedMagnitudes = other.droppedMagnitudes) :
    dropGroup outcome = dropGroup other := by
  rw [dropGroup, dropGroup, magnitudesText_eq_iff.mpr h]

theorem joinDrops_eq_iff {texts others : List Text} :
    joinDrops texts = joinDrops others ↔
      texts.isEmpty = others.isEmpty ∧
        [',', ' '].intercalate texts = [',', ' '].intercalate others := by
  unfold joinDrops
  cases texts <;> cases others <;> simp

theorem dropCount_eq_length_dropping (result : Result) :
    result.dropCount = result.dropping.length :=
  List.countP_eq_length_filter

theorem dropTexts_of_length_dropping_le (h : result.dropping.length ≤ 1) :
    result.dropTexts = result.dropping.map fun outcome => magnitudesText [','] outcome.dropped := by
  rw [← dropCount_eq_length_dropping] at h
  exact if_pos h

theorem dropTexts_of_dropping_nil (h : result.dropping = []) : result.dropTexts = [] := by
  rw [dropTexts_of_length_dropping_le (by simp [h]), h, List.map_nil]

theorem dropTexts_of_dropping_singleton {outcome : Outcome} (h : result.dropping = [outcome]) :
    result.dropTexts = [magnitudesText [','] outcome.dropped] := by
  rw [dropTexts_of_length_dropping_le (by simp [h]), h, List.map_singleton]

theorem dropTexts_of_several (h : 2 ≤ result.dropCount) :
    result.dropTexts = result.outcomes.map dropGroup :=
  if_neg (by omega)

/-- No set dropped dice, or one did, or several did. -/
theorem dropping_cases (result : Result) :
    result.dropping = [] ∨ (∃ outcome, result.dropping = [outcome]) ∨ 2 ≤ result.dropCount := by
  rw [dropCount_eq_length_dropping]
  match result.dropping with
  | [] => exact .inl rfl
  | [outcome] => exact .inr (.inl ⟨outcome, rfl⟩)
  | _ :: _ :: _ => exact .inr (.inr (by simp))

/-- The dropped values stand in brackets when several sets dropped dice. -/
theorem opening_mem_joinDrops_iff : '[' ∈ joinDrops result.dropTexts ↔ 2 ≤ result.dropCount := by
  have hvalues (values : List Int) : '[' ∉ magnitudesText [','] values :=
    not_mem_magnitudesText (by decide) (by decide) values
  rcases dropping_cases result with h | ⟨outcome, h⟩ | h
  · simp [dropTexts_of_dropping_nil h, dropCount_eq_length_dropping, h, joinDrops]
  · simp [dropTexts_of_dropping_singleton h, dropCount_eq_length_dropping, h, joinDrops, hvalues]
  · refine iff_of_true ?_ h
    rw [dropTexts_of_several h]
    cases houtcomes : result.outcomes with
    | nil => simp [dropCount, houtcomes] at h
    | cons first rest => simp [joinDrops, Text.intercalate_cons, dropGroup]

/-- The text about the dropped values shows how many sets dropped dice, up to two, and what they
dropped. -/
theorem dropsAlike_of_joinDrops_eq
    (htext : joinDrops result.dropTexts = joinDrops other.dropTexts) :
    DropsAlike result other := by
  have hseveral : 2 ≤ result.dropCount ↔ 2 ≤ other.dropCount := by
    rw [← opening_mem_joinDrops_iff, htext, opening_mem_joinDrops_iff]
  obtain ⟨hempty, hvalues⟩ := joinDrops_eq_iff.mp htext
  rcases dropping_cases result with h | ⟨outcome, h⟩ | h
  · rcases dropping_cases other with hother | ⟨otherOutcome, hother⟩ | hother
    · exact .nothing h hother
    · simp [dropTexts_of_dropping_nil h, dropTexts_of_dropping_singleton hother] at hempty
    · simp [dropCount_eq_length_dropping result, h, hother] at hseveral
  · rcases dropping_cases other with hother | ⟨otherOutcome, hother⟩ | hother
    · simp [dropTexts_of_dropping_singleton h, dropTexts_of_dropping_nil hother] at hempty
    · rw [dropTexts_of_dropping_singleton h, dropTexts_of_dropping_singleton hother,
        List.intercalate_singleton, List.intercalate_singleton] at hvalues
      exact .one h hother (magnitudesText_eq_iff.mp hvalues)
    · simp [dropCount_eq_length_dropping result, h, hother] at hseveral
  · have hother := hseveral.mp h
    rw [dropTexts_of_several h, dropTexts_of_several hother] at hvalues
    apply DropsAlike.several h hother
    exact shows_dropGroup.map_eq_of_intercalate (fun _ => List.cons_ne_nil _ _) hvalues

theorem DropsAlike.dropTexts_eq (h : DropsAlike result other) :
    result.dropTexts = other.dropTexts := by
  cases h with
  | nothing h hother => rw [dropTexts_of_dropping_nil h, dropTexts_of_dropping_nil hother]
  | one h hother hdropped =>
    rw [dropTexts_of_dropping_singleton h, dropTexts_of_dropping_singleton hother,
      magnitudesText_eq_iff.mpr hdropped]
  | several h hother hdropped =>
    have hgroups : result.outcomes.map dropGroup = other.outcomes.map dropGroup := by
      rw [map_eq_map_iff_forall₂] at hdropped ⊢
      exact hdropped.imp fun _ _ => dropGroup_eq
    rw [dropTexts_of_several h, dropTexts_of_several hother, hgroups]

theorem joinDrops_dropTexts_eq_iff :
    joinDrops result.dropTexts = joinDrops other.dropTexts ↔ DropsAlike result other :=
  ⟨dropsAlike_of_joinDrops_eq, fun h => congrArg joinDrops h.dropTexts_eq⟩

theorem opensWith_joinDrops (texts : List Text) : OpensWith ' ' (joinDrops texts) := by
  unfold joinDrops
  split
  · exact Text.opensWith_nil ' '
  · exact Text.opensWith_cons ' ' _

/-! ### The line -/

theorem space_not_mem_detailsText (h : result.DetailsFit) : ' ' ∉ result.detailsText := by
  rw [detailsText_eq_write h]
  exact Breakdown.space_not_mem_write (plain_of_mem_summands h)

/-- No part of a line reaches into the next one. -/
theorem lineText_eq_iff (h : result.DetailsFit) (hother : other.DetailsFit) :
    result.lineText = other.lineText ↔
      result.total = other.total ∧ result.detailsText = other.detailsText ∧
        joinDrops result.dropTexts = joinDrops other.dropTexts := by
  constructor
  · intro hline
    have hspace (n : Int) : ' ' ∉ ofInt n := Text.not_mem_ofInt (by decide) (by decide)
    unfold lineText at hline
    simp only [List.append_assoc, List.append_cancel_left_eq, List.cons_append] at hline
    obtain ⟨htotal, hrest⟩ := Text.append_inj_of_opensWith (hspace _) (hspace _)
      (Text.opensWith_cons ' ' _) (Text.opensWith_cons ' ' _) hline
    obtain ⟨hdetails, hdropped⟩ := Text.append_inj_of_opensWith (space_not_mem_detailsText h)
      (space_not_mem_detailsText hother) (opensWith_joinDrops _) (opensWith_joinDrops _)
      (List.cons.inj hrest).2
    exact ⟨Text.ofInt_injective htotal, hdetails, hdropped⟩
  · rintro ⟨htotal, hdetails, hdropped⟩
    unfold lineText
    rw [htotal, hdetails, hdropped]

/-- Results with lines have the same line exactly when they look alike. -/
theorem line_eq_iff_looksLike {text otherText : Text} (h : result.line = .ok text)
    (hother : other.line = .ok otherText) : text = otherText ↔ result.LooksLike other := by
  obtain ⟨⟨-, hfit, -⟩, rfl⟩ := (result.givesWhen_line text).mp h
  obtain ⟨⟨-, hfit', -⟩, rfl⟩ := (other.givesWhen_line otherText).mp hother
  rw [lineText_eq_iff hfit hfit', detailsText_eq_iff hfit hfit', summands_eq_iff,
    shownModifiers_eq_iff, joinDrops_dropTexts_eq_iff]
  constructor
  · rintro ⟨htotal, ⟨houtcomes, hmodifiers⟩, hdropped⟩
    exact ⟨htotal, houtcomes, hmodifiers, hdropped⟩
  · rintro ⟨htotal, houtcomes, hmodifiers, hdropped⟩
    exact ⟨htotal, ⟨houtcomes, hmodifiers⟩, hdropped⟩

/-- A line does not show which of two sets dropped a one, the signs of its values, or whether a
zero was added. -/
theorem looksLike_first_or_second_drop :
    let first : Result :=
      { outcomes := [{ kept := [6, 5], dropped := [1] }, { kept := [-2], negative := true }]
        total := 9 }
    let second : Result :=
      { outcomes := [{ kept := [6, 5] }, { kept := [2], dropped := [-1], negative := true }]
        modifiers := [0]
        total := 9 }
    let text := "Result: 9 [6+5]-[2]+0 Dropped (1)".toList
    first.line = .ok text ∧ second.line = .ok text ∧ first.LooksLike second := by
  intro first second text
  have hfirst : first.line = .ok text := by decide +kernel
  have hsecond : second.line = .ok text := by decide +kernel
  exact ⟨hfirst, hsecond, (line_eq_iff_looksLike hfirst hsecond).mp rfl⟩

end Result

end DiceRoll
