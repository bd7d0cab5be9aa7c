import DiceRoll.Text.Basic
import Mathlib

/-!
# Texts with separators

Where a character cannot stand in a text, its first occurrence ends the text. So texts that are
joined with a separator are told apart when each of them is told apart from what may follow it.
-/

namespace DiceRoll.Text

variable {α β : Type}

/-- Texts joined with a separator are the first of them, and each other one behind a separator. -/
theorem intercalate_cons {separator : Text} (first : Text) (rest : List Text) :
    separator.intercalate (first :: rest) = first ++ rest.flatMap (separator ++ ·) := by
  induction rest generalizing first with
  | nil => simp
  | cons second rest ih =>
    rw [List.intercalate_cons_cons, ih, List.flatMap_cons]
    simp

/-- The text is empty or begins with a character. -/
def OpensWith (c : Char) (s : Text) : Prop :=
  ∀ first ∈ s.head?, first = c

@[simp] theorem opensWith_nil (c : Char) : OpensWith c [] := by simp [OpensWith]

@[simp] theorem opensWith_cons (c : Char) (s : Text) : OpensWith c (c :: s) := by simp [OpensWith]

/-- A character that is not in a text ends it. -/
theorem takeWhile_append_of_opensWith {c : Char} {s t : Text} (hs : c ∉ s) (ht : OpensWith c t) :
    (s ++ t).takeWhile (· ≠ c) = s := by
  have hstop : t.takeWhile (· ≠ c) = [] := by
    cases t with
    | nil => rfl
    | cons first rest => simp [ht first rfl]
  rw [List.takeWhile_append_of_pos, hstop, List.append_nil]
  intro d hd
  exact decide_eq_true fun heq => hs (heq ▸ hd)

theorem append_inj_of_opensWith {c : Char} {s s' t t' : Text} (hs : c ∉ s) (hs' : c ∉ s')
    (ht : OpensWith c t) (ht' : OpensWith c t') (h : s ++ t = s' ++ t') : s = s' ∧ t = t' := by
  have hstart : s = s' := by
    rw [← takeWhile_append_of_opensWith hs ht, h, takeWhile_append_of_opensWith hs' ht']
  subst hstart
  exact ⟨rfl, List.append_cancel_left h⟩

/-- The text of an item shows the value of the item and where the text ends, be it at the end of
all or in front of a character. -/
def Shows (c : Char) (write : α → Text) (value : α → β) : Prop :=
  ∀ item other rest more, OpensWith c rest → OpensWith c more →
    write item ++ rest = write other ++ more → value item = value other ∧ rest = more

namespace Shows

variable {c : Char} {write : α → Text} {value : α → β}

theorem map_eq_of_flatMap (h : Shows c write value) (separator : Text) {items others : List α}
    (heq : (items.flatMap fun item => c :: separator ++ write item) =
      others.flatMap fun item => c :: separator ++ write item) :
    items.map value = others.map value := by
  have hopens (items : List α) :
      OpensWith c (items.flatMap fun item => c :: separator ++ write item) := by
    cases items <;> simp
  induction items generalizing others with
  | nil =>
    cases others with
    | nil => rfl
    | cons => simp at heq
  | cons first rest ih =>
    cases others with
    | nil => simp at heq
    | cons other more =>
      simp only [List.flatMap_cons, List.append_assoc, List.append_cancel_left_eq] at heq
      obtain ⟨hvalue, hrest⟩ := h first other _ _ (hopens rest) (hopens more) heq
      rw [List.map_cons, List.map_cons, hvalue, ih hrest]

/-- Joined texts show the values of all items. -/
theorem map_eq_of_intercalate (h : Shows c write value) (hne : ∀ item, write item ≠ [])
    {separator : Text} {items others : List α}
    (heq : (c :: separator).intercalate (items.map write) =
      (c :: separator).intercalate (others.map write)) :
    items.map value = others.map value := by
  cases items with
  | nil =>
    cases others with
    | nil => rfl
    | cons other => simp [intercalate_cons, hne] at heq
  | cons first rest =>
    cases others with
    | nil => simp [intercalate_cons, hne] at heq
    | cons other more =>
      rw [List.map_cons, List.map_cons, intercalate_cons, intercalate_cons, List.flatMap_map,
        List.flatMap_map] at heq
      apply h.map_eq_of_flatMap separator
      rw [List.flatMap_cons, List.flatMap_cons, List.append_assoc, List.append_assoc, heq]

end Shows

end DiceRoll.Text
