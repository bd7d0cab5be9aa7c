import DiceRoll.Command.Console
import DiceRoll.Proofs.Report.Unambiguous

/-!
# The characters of a line

A result line is spelled with printable characters of ASCII and does not end in a space. So a
console that shows such texts as they stand shows it.
-/

namespace DiceRoll

namespace Text

variable {s t : Text}

@[simp] theorem isPrintableAscii_nil : isPrintableAscii [] = true := rfl

@[simp] theorem isPrintableAscii_append :
    isPrintableAscii (s ++ t) = (isPrintableAscii s && isPrintableAscii t) := List.all_append

@[simp] theorem isPrintableAscii_cons {c : Char} :
    isPrintableAscii (c :: s) = ((' ' ≤ c && c ≤ '~') && isPrintableAscii s) := List.all_cons

theorem isPrintableAscii_of_subset (h : s ⊆ t) (ht : isPrintableAscii t = true) :
    isPrintableAscii s = true :=
  List.all_eq_true.mpr fun c hc => List.all_eq_true.mp ht c (h hc)

theorem isPrintableAscii_intercalate {separator : Text} {texts : List Text}
    (hseparator : isPrintableAscii separator = true)
    (h : ∀ text ∈ texts, isPrintableAscii text = true) :
    isPrintableAscii (separator.intercalate texts) = true := by
  cases texts with
  | nil => rfl
  | cons first rest =>
    obtain ⟨hfirst, hrest⟩ := List.forall_mem_cons.mp h
    rw [intercalate_cons, isPrintableAscii_append, hfirst, Bool.true_and, isPrintableAscii,
      List.all_flatMap, List.all_eq_true]
    intro text htext
    rw [← isPrintableAscii, isPrintableAscii_append, hseparator, hrest text htext, Bool.true_and]

theorem isPrintableAscii_ofInt (n : Int) : isPrintableAscii (ofInt n) = true := by
  rw [isPrintableAscii, List.all_eq_true]
  intro c hc
  rcases eq_minus_or_isDigit_of_mem_ofInt hc with rfl | hdigit
  · decide
  · have hrange := Char.isDigit_iff_toNat.mp hdigit
    simp only [Bool.and_eq_true, decide_eq_true_eq, Char.le_def, UInt32.le_iff_toNat_le]
    exact ⟨Nat.le_trans (by decide) hrange.1, Nat.le_trans hrange.2 (by decide)⟩

/-- Merging signs leaves some characters out and brings none in. -/
theorem mergeSigns_subset (s : Text) : mergeSigns s ⊆ s := by
  fun_induction mergeSigns s with
  | case1 rest ih =>
    exact List.subset_cons_of_subset '+' (List.cons_subset_cons '-' ih)
  | case2 c rest _ ih => exact List.cons_subset_cons c ih
  | case3 => exact List.nil_subset _

theorem mergeSigns_ne_nil (h : s ≠ []) : mergeSigns s ≠ [] := by
  fun_cases mergeSigns s with
  | case1 | case2 => exact List.cons_ne_nil _ _
  | case3 => exact absurd rfl h

/-- Joined texts are not empty, if there is one and none of them is. -/
theorem intercalate_ne_nil {separator : Text} {texts : List Text} (hsome : texts ≠ [])
    (h : ∀ text ∈ texts, text ≠ []) : separator.intercalate texts ≠ [] := by
  obtain ⟨first, rest, rfl⟩ := List.exists_cons_of_ne_nil hsome
  rw [intercalate_cons]
  exact List.append_ne_nil_of_left_ne_nil (h first List.mem_cons_self) _

end Text

namespace Result

open Text (isPrintableAscii isPrintableAscii_ofInt isPrintableAscii_intercalate)

variable {result : Result}

theorem isPrintableAscii_magnitudesText {separator : Text}
    (h : isPrintableAscii separator = true) (values : List Int) :
    isPrintableAscii (magnitudesText separator values) = true := by
  refine isPrintableAscii_intercalate h fun text htext => ?_
  obtain ⟨value, -, rfl⟩ := List.mem_map.mp htext
  exact isPrintableAscii_ofInt _

theorem isPrintableAscii_groupText (outcome : Outcome) :
    isPrintableAscii (groupText outcome) = true := by
  have hkept : isPrintableAscii (magnitudesText ['+'] outcome.kept) = true :=
    isPrintableAscii_magnitudesText (by decide) outcome.kept
  unfold groupText
  split <;> simp [hkept]

theorem isPrintableAscii_detailsText (result : Result) :
    isPrintableAscii result.detailsText = true := by
  refine Text.isPrintableAscii_of_subset (Text.mergeSigns_subset _)
    (isPrintableAscii_intercalate (by decide) ?_)
  simp only [List.forall_mem_append, List.forall_mem_map]
  exact ⟨fun outcome _ => isPrintableAscii_groupText outcome,
    fun value _ => isPrintableAscii_ofInt value⟩

theorem isPrintableAscii_joinDrops (result : Result) :
    isPrintableAscii (joinDrops result.dropTexts) = true := by
  have hvalues (outcome : Outcome) :
      isPrintableAscii (magnitudesText [','] outcome.dropped) = true :=
    isPrintableAscii_magnitudesText (by decide) outcome.dropped
  have htexts : ∀ text ∈ result.dropTexts, isPrintableAscii text = true := by
    unfold dropTexts
    split <;>
    · rw [List.forall_mem_map]
      intro outcome _
      simp [hvalues outcome]
  have hjoined : isPrintableAscii ([',', ' '].intercalate result.dropTexts) = true :=
    isPrintableAscii_intercalate (by decide) htexts
  have hlead : isPrintableAscii " Dropped (".toList = true := by decide +kernel
  unfold joinDrops
  split
  · rfl
  · rw [Text.isPrintableAscii_append, Text.isPrintableAscii_append, hlead, hjoined]
    decide

/-- A line is spelled with printable characters of ASCII. -/
theorem isPrintableAscii_lineText (result : Result) : isPrintableAscii result.lineText = true := by
  have hlead : isPrintableAscii "Result: ".toList = true := by decide +kernel
  unfold lineText
  generalize "Result: ".toList = lead at hlead ⊢
  simp [hlead, isPrintableAscii_ofInt, isPrintableAscii_detailsText, isPrintableAscii_joinDrops]

theorem detailsText_ne_nil (result : Result) : result.detailsText ≠ [] := by
  refine Text.mergeSigns_ne_nil (Text.intercalate_ne_nil ?_ ?_)
  · have hmodifiers : result.shownModifiers ≠ [] := by
      unfold shownModifiers
      split
      · exact List.cons_ne_nil _ _
      · rename_i hsome
        simpa using hsome
    simp [hmodifiers]
  · simp only [List.forall_mem_append, List.forall_mem_map]
    exact ⟨fun outcome _ => by simp [groupText], fun value _ => Text.ofInt_ne_nil value⟩

/-- A line does not end in a space. -/
theorem getLast?_lineText_ne (h : result.DetailsFit) : result.lineText.getLast? ≠ some ' ' := by
  intro hlast
  unfold lineText joinDrops at hlast
  split at hlast
  · -- Nothing was dropped, and the details, which come last, hold no space.
    rw [List.append_nil, List.getLast?_append_of_ne_nil _ (List.cons_ne_nil _ _),
      List.getLast?_cons_of_ne_nil result.detailsText_ne_nil] at hlast
    exact space_not_mem_detailsText h (List.mem_of_getLast? hlast)
  · rw [List.getLast?_append_of_ne_nil _ (by simp), List.getLast?_concat] at hlast
    cases hlast

end Result

end DiceRoll
