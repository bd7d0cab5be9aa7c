import DiceRoll.Proofs.Report.Breakdown

/-!
# The details of a result are a sum

Leaving out the plus signs before minus signs turns the joined parts of a result into signed
summands, each behind its one sign.
-/

namespace DiceRoll

namespace Text

theorem mergeSigns_cons {c : Char} (h : c ≠ '+') (rest : Text) :
    mergeSigns (c :: rest) = c :: mergeSigns rest := by
  rw [mergeSigns]
  rintro other rfl
  exact absurd rfl h

theorem mergeSigns_plus {s : Text} (h : s.head? ≠ some '-') :
    mergeSigns ('+' :: s) = '+' :: mergeSigns s := by
  rw [mergeSigns]
  rintro rest - rfl
  exact h rfl

/-- A text without plus signs is left as it is. -/
theorem mergeSigns_append {s : Text} (h : '+' ∉ s) (rest : Text) :
    mergeSigns (s ++ rest) = s ++ mergeSigns rest := by
  induction s with
  | nil => rfl
  | cons c s ih =>
    simp only [List.mem_cons, not_or] at h
    rw [List.cons_append, mergeSigns_cons (Ne.symm h.1), ih h.2, List.cons_append]

theorem head?_append_ne {s : Text} (hne : s ≠ []) {c : Char} (h : c ∉ s) (rest : Text) :
    (s ++ rest).head? ≠ some c := by
  rw [List.head?_append_of_ne_nil _ hne]
  exact fun hhead => h (List.mem_of_mem_head? hhead)

end Text

namespace Breakdown

open Text (intercalate_cons mergeSigns mergeSigns_cons mergeSigns_plus mergeSigns_append
  head?_append_ne not_mem_ofInt_of_nonneg)

/-- The plus signs between the members of a group are kept. -/
theorem mergeSigns_members {members : List Int} (h : ∀ member ∈ members, 0 ≤ member) (rest : Text) :
    mergeSigns ((members.map Text.ofInt).flatMap ('+' :: ·) ++ rest) =
      (members.map Text.ofInt).flatMap ('+' :: ·) ++ mergeSigns rest := by
  induction members with
  | nil => rfl
  | cons first others ih =>
    obtain ⟨hfirst, hothers⟩ := List.forall_mem_cons.mp h
    have hhead := head?_append_ne (Text.ofInt_ne_nil first)
      (not_mem_ofInt_of_nonneg hfirst (by decide : '-'.isDigit = false))
    simp only [List.map_cons, List.flatMap_cons, List.cons_append, List.append_assoc]
    rw [mergeSigns_plus (hhead _),
      mergeSigns_append (not_mem_ofInt_of_nonneg hfirst (by decide : '+'.isDigit = false)),
      ih hothers]

/-- A written summand is left as it is. -/
theorem mergeSigns_write {summand : Summand} (h : summand.Plain) (rest : Text) :
    mergeSigns (summand.write ++ rest) = summand.write ++ mergeSigns rest := by
  cases summand with
  | number value => exact mergeSigns_append (not_mem_ofInt_of_nonneg h.1 (by decide)) rest
  | group members =>
    have hclose : mergeSigns (']' :: rest) = ']' :: mergeSigns rest :=
      mergeSigns_cons (by decide) rest
    simp only [Summand.write, List.cons_append, List.append_assoc, List.nil_append]
    rw [mergeSigns_cons (by decide)]
    cases members with
    | nil => simp [hclose]
    | cons first others =>
      have hplus := not_mem_ofInt_of_nonneg (h first List.mem_cons_self).1
        (by decide : '+'.isDigit = false)
      have hothers : ∀ member ∈ others, 0 ≤ member := fun member hmember =>
        (h member (List.mem_cons_of_mem first hmember)).1
      simp only [List.map_cons, intercalate_cons, List.singleton_append]
      rw [List.append_assoc, mergeSigns_append hplus, mergeSigns_members hothers, hclose,
        List.append_assoc]

/-- A written summand is made of digits, plus signs and brackets. -/
theorem not_mem_write {summand : Summand} (h : summand.Plain) {c : Char}
    (hdigit : c.isDigit = false) (hmark : c ∉ ['+', '[', ']']) : c ∉ summand.write := by
  cases summand with
  | number value => exact not_mem_ofInt_of_nonneg h.1 hdigit
  | group members =>
    have hinner : c ∉ ['+'].intercalate (members.map Text.ofInt) := fun hmem => by
      rcases Text.isDigit_of_mem_intercalate (fun member hmember => (h member hmember).1) hmem
        with rfl | hc
      · simp at hmark
      · simp [hdigit] at hc
    simp only [List.mem_cons, List.not_mem_nil, or_false, not_or] at hmark
    simpa [Summand.write] using ⟨hmark.2.1, hinner, hmark.2.2⟩

/-- At most the first sign is left out of a written sum. -/
theorem write_subset (summands : List (Sign × Summand)) :
    write summands ⊆ summands.flatMap writeSigned := by
  fun_cases write summands with
  | case1 => exact List.nil_subset _
  | case2 first rest => exact List.subset_cons_self _ _
  | case3 => exact List.Subset.refl _

theorem space_not_mem_write {summands : List (Sign × Summand)}
    (h : ∀ signed ∈ summands, signed.2.Plain) : ' ' ∉ write summands := by
  intro hmem
  obtain ⟨⟨sign, summand⟩, hsigned, hspace⟩ := List.mem_flatMap.mp (write_subset summands hmem)
  have hsummand : ' ' ∉ summand.write := not_mem_write (h _ hsigned) (by decide) (by decide)
  cases sign <;> simp [writeSigned, Sign.toChar, hsummand] at hspace

/-- The text of a signed summand whose plus sign is left out. -/
def part : Sign × Summand → Text
  | (.plus, summand) => summand.write
  | (.minus, summand) => '-' :: summand.write

/-- A minus sign takes the place of the plus sign before it. -/
theorem mergeSigns_flatMap_part {summands : List (Sign × Summand)}
    (h : ∀ signed ∈ summands, signed.2.Plain) :
    mergeSigns ((summands.map part).flatMap ('+' :: ·)) = summands.flatMap writeSigned := by
  induction summands with
  | nil => rfl
  | cons first rest ih =>
    obtain ⟨hfirst, hrest⟩ := List.forall_mem_cons.mp h
    simp only [List.map_cons, List.flatMap_cons, List.cons_append]
    rw [← ih hrest]
    rcases first with ⟨_ | _, summand⟩
    · have hhead := head?_append_ne summand.write_ne_nil
        (not_mem_write hfirst (by decide : '-'.isDigit = false) (by decide))
      rw [part, mergeSigns_plus (hhead _), mergeSigns_write hfirst]
      rfl
    · rw [part, List.cons_append, mergeSigns, mergeSigns_write hfirst]
      rfl

/-- Parts joined with plus signs, less those before minus signs, are a written sum. -/
theorem mergeSigns_intercalate_part {summands : List (Sign × Summand)}
    (h : ∀ signed ∈ summands, signed.2.Plain) :
    mergeSigns (['+'].intercalate (summands.map part)) = write summands := by
  rcases summands with _ | ⟨⟨sign, first⟩, rest⟩
  · rfl
  · obtain ⟨hfirst, hrest⟩ := List.forall_mem_cons.mp h
    simp only [List.map_cons, intercalate_cons, List.singleton_append]
    cases sign with
    | plus =>
      rw [part, mergeSigns_write hfirst, mergeSigns_flatMap_part hrest]
      rfl
    | minus =>
      rw [part, List.cons_append, mergeSigns_cons (by decide), mergeSigns_write hfirst,
        mergeSigns_flatMap_part hrest]
      rfl

end Breakdown

namespace Result

open Breakdown (part)

/-- What a set kept, as a signed summand. -/
def keptSummand (outcome : Outcome) : Sign × Summand :=
  (if outcome.negative then .minus else .plus, .group (outcome.kept.map fun value => value.natAbs))

/-- A modifier as a signed summand. -/
def modifierSummand (value : Int) : Sign × Summand :=
  (if value < 0 then .minus else .plus, .number value.natAbs)

/-- The signed summands of a result. -/
def summands (result : Result) : List (Sign × Summand) :=
  result.outcomes.map keptSummand ++ result.shownModifiers.map modifierSummand

theorem part_keptSummand (outcome : Outcome) : part (keptSummand outcome) = groupText outcome := by
  unfold part keptSummand groupText magnitudesText
  cases outcome.negative <;> simp [Summand.write, Function.comp_def]

theorem part_modifierSummand (value : Int) : part (modifierSummand value) = Text.ofInt value := by
  unfold modifierSummand Text.ofInt
  by_cases h : value < 0
  · have hnonneg : ¬ (value.natAbs : Int) < 0 := by omega
    rw [if_pos h, if_pos h, part, Summand.write, Text.ofInt, if_neg hnonneg, Int.natAbs_natCast]
  · have hnonneg : ¬ (value.natAbs : Int) < 0 := by omega
    rw [if_neg h, if_neg h, part, Summand.write, Text.ofInt, if_neg hnonneg, Int.natAbs_natCast]

theorem fits_of_mem_shownModifiers {result : Result} (h : result.DetailsFit) :
    ∀ value ∈ result.shownModifiers, Text.fits value = true := by
  unfold shownModifiers
  split
  · simp only [List.mem_singleton, forall_eq]
    decide
  · exact h.2

theorem plain_of_mem_summands {result : Result} (h : result.DetailsFit) :
    ∀ signed ∈ result.summands, signed.2.Plain := by
  have hfits (value : Int) (hvalue : Text.fits value = true) :
      0 ≤ (value.natAbs : Int) ∧ Text.fits value.natAbs = true :=
    ⟨by omega, (Text.fits_natAbs value).trans hvalue⟩
  intro signed hsigned
  rcases List.mem_append.mp hsigned with hsigned | hsigned
  · obtain ⟨outcome, houtcome, rfl⟩ := List.mem_map.mp hsigned
    intro member hmember
    obtain ⟨value, hvalue, rfl⟩ := List.mem_map.mp hmember
    exact hfits value (h.1 outcome houtcome value hvalue)
  · obtain ⟨value, hvalue, rfl⟩ := List.mem_map.mp hsigned
    exact hfits value (fits_of_mem_shownModifiers h value hvalue)

/-- The details of a result are its summands in writing. -/
theorem detailsText_eq_write {result : Result} (h : result.DetailsFit) :
    result.detailsText = Breakdown.write result.summands := by
  rw [← Breakdown.mergeSigns_intercalate_part (plain_of_mem_summands h), detailsText, summands,
    List.map_append, List.map_map, List.map_map]
  simp only [Function.comp_def, part_keptSummand, part_modifierSummand]

/-- The details of a result read back as its summands. -/
theorem read?_of_details_eq_ok {result : Result} {text : Text} (h : result.details = .ok text) :
    Breakdown.read? text = some result.summands := by
  obtain ⟨hfits, rfl⟩ := (result.givesWhen_details text).mp h
  rw [detailsText_eq_write hfits, Breakdown.read?_write (plain_of_mem_summands hfits)]

end Result

end DiceRoll
