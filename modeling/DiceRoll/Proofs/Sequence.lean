import Mathlib

/-!
# Lists read item by item

A list reads as a whole exactly when each of its items reads, and then into the list of what the
items read as. The reader may fail with or without saying why. A list is split at an item into what
stands before the first place where it is, and the rest.
-/

namespace DiceRoll

variable {α β ε : Type}

/-- A sequence gives a value when its first part gives one from which the second part gives it. -/
theorem bind_eq_ok_iff {first : Except ε α} {next : α → Except ε β} {value : β} :
    (first >>= next) = .ok value ↔ ∃ found, first = .ok found ∧ next found = .ok value := by
  cases first <;> simp [bind, Except.bind]

/-- Items read as values when each value is what its item reads as. -/
theorem mapM_eq_ok_iff {read : α → Except ε β} {items : List α} {values : List β} :
    items.mapM read = .ok values ↔
      List.Forall₂ (fun item value => read item = .ok value) items values := by
  induction items generalizing values with
  | nil => simp [pure, Except.pure, eq_comm]
  | cons first rest ih =>
    rw [List.mapM_cons, List.forall₂_cons_left_iff]
    simp only [bind_eq_ok_iff, pure, Except.pure, Except.ok.injEq]
    constructor
    · rintro ⟨value, hvalue, others, hothers, rfl⟩
      exact ⟨value, others, hvalue, ih.mp hothers, rfl⟩
    · rintro ⟨value, others, hvalue, hothers, rfl⟩
      exact ⟨value, hvalue, others, ih.mpr hothers, rfl⟩

/-- Items read as values when each value is what its item reads as. -/
theorem mapM_eq_some_iff {read : α → Option β} {items : List α} {values : List β} :
    items.mapM read = some values ↔
      List.Forall₂ (fun item value => read item = some value) items values := by
  induction items generalizing values with
  | nil => simp [eq_comm]
  | cons first rest ih =>
    rw [List.mapM_cons, List.forall₂_cons_left_iff]
    simp only [Option.bind_eq_bind, Option.bind_eq_some_iff, Option.pure_def, Option.some.injEq]
    constructor
    · rintro ⟨value, hvalue, others, hothers, rfl⟩
      exact ⟨value, others, hvalue, ih.mp hothers, rfl⟩
    · rintro ⟨value, others, hvalue, hothers, rfl⟩
      exact ⟨value, hvalue, others, ih.mpr hothers, rfl⟩

/-- What a list of items reads as comes from one of the items. -/
theorem exists_mem_of_forall₂ {related : α → β → Prop} {items : List α} {values : List β}
    (h : List.Forall₂ related items values) {value : β} (hvalue : value ∈ values) :
    ∃ item ∈ items, related item value := by
  induction h with
  | nil => simp at hvalue
  | cons hfirst _ ih =>
    rcases List.mem_cons.mp hvalue with rfl | hvalue
    · exact ⟨_, List.mem_cons_self, hfirst⟩
    · obtain ⟨item, hitem, hrelated⟩ := ih hvalue
      exact ⟨item, List.mem_cons_of_mem _ hitem, hrelated⟩

/-- A relation that is a function relates a list to the list of its values alone. -/
theorem forall₂_iff_eq_map {related : α → β → Prop} {value : α → β} {items : List α}
    (h : ∀ item ∈ items, ∀ found, related item found ↔ found = value item)
    {values : List β} :
    List.Forall₂ related items values ↔ values = items.map value := by
  induction items generalizing values with
  | nil => simp
  | cons first rest ih =>
    obtain ⟨hfirst, hrest⟩ := List.forall_mem_cons.mp h
    simp [List.forall₂_cons_left_iff, hfirst, ih hrest]

/-- Of two lists that are related item by item, the items that some condition picks are related to
the values that are picked on the other side. -/
theorem forall₂_filter_filterMap {γ : Type} {related : α → β → Prop} {picked : α → γ → Prop}
    {condition : α → Bool} {pick? : β → Option γ} {items : List α} {values : List β}
    (hpick : ∀ item value, related item value →
      (condition item = true ∧ ∃ found, pick? value = some found ∧ picked item found) ∨
        condition item = false ∧ pick? value = none)
    (h : List.Forall₂ related items values) :
    List.Forall₂ picked (items.filter condition) (values.filterMap pick?) := by
  induction h with
  | nil => exact .nil
  | @cons item value _ _ hfirst _ ih =>
    rcases hpick item value hfirst with ⟨hyes, found, hfound, hpicked⟩ | ⟨hno, hnone⟩
    · rw [List.filter_cons_of_pos hyes, List.filterMap_cons_some hfound]
      exact .cons hpicked ih
    · rwa [List.filter_cons_of_neg (by simp [hno]), List.filterMap_cons_none hnone]

/-- Lists have the same image when their items have it one by one. -/
theorem map_eq_map_iff_forall₂ {value : α → β} {items others : List α} :
    items.map value = others.map value ↔
      List.Forall₂ (fun item other => value item = value other) items others := by
  rw [← List.forall₂_eq_eq_eq, List.forall₂_map_left_iff, List.forall₂_map_right_iff]

/-- Lists with related beginnings of one length go on with related lists. -/
theorem forall₂_of_append {related : α → β → Prop} {items rest : List α} {values more : List β}
    (h : List.Forall₂ related (items ++ rest) (values ++ more))
    (hlength : items.length = values.length) : List.Forall₂ related rest more := by
  have hdrop := List.forall₂_drop_append _ _ _ h
  rwa [← hlength, List.drop_left] at hdrop

/-- Values that are each read back from their item are read back together. -/
theorem mapM_map_eq_ok {read : α → Except ε β} {item : β → α} {values : List β}
    (h : ∀ value ∈ values, read (item value) = .ok value) :
    (values.map item).mapM read = .ok values := by
  rw [mapM_eq_ok_iff, List.forall₂_map_left_iff]
  exact List.forall₂_same.mpr h

/-- Values that are each read back from their item are read back together. -/
theorem mapM_map_eq_some {read : α → Option β} {item : β → α} {values : List β}
    (h : ∀ value ∈ values, read (item value) = some value) :
    (values.map item).mapM read = some values := by
  rw [mapM_eq_some_iff, List.forall₂_map_left_iff]
  exact List.forall₂_same.mpr h

/-- Readers that agree on each item agree on the list. -/
theorem mapM_congr_left {read read' : α → Except ε β} {items : List α}
    (h : ∀ item ∈ items, read item = read' item) : items.mapM read = items.mapM read' := by
  induction items with
  | nil => rfl
  | cons first rest ih =>
    obtain ⟨hfirst, hrest⟩ := List.forall_mem_cons.mp h
    rw [List.mapM_cons, List.mapM_cons, hfirst, ih hrest]

/-- A list is left whole when the item it is split at does not stand in it. -/
theorem span_ne_eq_nil_iff [DecidableEq α] {item : α} {items before : List α} :
    items.span (· ≠ item) = (before, []) ↔ item ∉ items ∧ before = items := by
  rw [List.span_eq_takeWhile_dropWhile, Prod.mk.injEq, List.dropWhile_eq_nil_iff]
  constructor
  · rintro ⟨htake, hne⟩
    refine ⟨fun hmem => by simpa using hne item hmem, ?_⟩
    rw [← htake, List.takeWhile_eq_self_iff.mpr hne]
  · rintro ⟨hmem, rfl⟩
    have hne : ∀ c ∈ before, decide (c ≠ item) = true := fun c hc =>
      decide_eq_true fun heq => hmem (heq ▸ hc)
    exact ⟨List.takeWhile_eq_self_iff.mpr hne, hne⟩

/-- A list is split at the first place where an item stands. -/
theorem span_ne_eq_cons_iff [DecidableEq α] {item found : α} {items before after : List α} :
    items.span (· ≠ item) = (before, found :: after) ↔
      found = item ∧ item ∉ before ∧ items = before ++ item :: after := by
  rw [List.span_eq_takeWhile_dropWhile, Prod.mk.injEq]
  constructor
  · rintro ⟨rfl, hdrop⟩
    have hfound := List.head?_dropWhile_not (fun c => decide (c ≠ item)) items
    simp only [hdrop, List.head?_cons, decide_eq_false_iff_not, not_not] at hfound
    subst hfound
    refine ⟨rfl, fun hmem => by simpa using List.mem_takeWhile_imp hmem, ?_⟩
    rw [← hdrop, List.takeWhile_append_dropWhile]
  · rintro ⟨rfl, hmem, rfl⟩
    have hne : ∀ c ∈ before, decide (c ≠ found) = true := fun c hc =>
      decide_eq_true fun heq => hmem (heq ▸ hc)
    rw [List.takeWhile_append_of_pos hne, List.dropWhile_append_of_pos hne]
    simp

/-- Conditions that agree on a list split it at the same place. -/
theorem takeWhile_and_dropWhile_congr {p q : α → Bool} {items : List α}
    (h : ∀ item ∈ items, p item = q item) :
    items.takeWhile p = items.takeWhile q ∧ items.dropWhile p = items.dropWhile q := by
  induction items with
  | nil => exact ⟨rfl, rfl⟩
  | cons first rest ih =>
    obtain ⟨hfirst, hrest⟩ := List.forall_mem_cons.mp h
    rw [List.takeWhile_cons, List.takeWhile_cons, List.dropWhile_cons, List.dropWhile_cons, hfirst,
      (ih hrest).1, (ih hrest).2]
    exact ⟨rfl, rfl⟩

/-- An attempt gives a value, and no other one, exactly when a condition holds. -/
def GivesWhen (attempt : Except ε α) (condition : Prop) (value : α) : Prop :=
  ∀ found, attempt = .ok found ↔ condition ∧ found = value

namespace GivesWhen

theorem pure {value : α} : GivesWhen (pure value : Except ε α) True value := by
  intro found
  simp [Pure.pure, Except.pure, eq_comm]

/-- A sequence gives the value of its second part when both parts give theirs. -/
theorem bind {attempt : Except ε α} {condition condition' : Prop} {value : α} {value' : β}
    (h : GivesWhen attempt condition value) (next : α → Except ε β)
    (hnext : GivesWhen (next value) condition' value') :
    GivesWhen (attempt >>= next) (condition ∧ condition') value' := by
  intro found
  rw [bind_eq_ok_iff]
  constructor
  · rintro ⟨middle, hmiddle, hfound⟩
    obtain ⟨hcondition, rfl⟩ := (h middle).mp hmiddle
    obtain ⟨hcondition', rfl⟩ := (hnext found).mp hfound
    exact ⟨⟨hcondition, hcondition'⟩, rfl⟩
  · rintro ⟨⟨hcondition, hcondition'⟩, rfl⟩
    exact ⟨value, (h value).mpr ⟨hcondition, rfl⟩, (hnext _).mpr ⟨hcondition', rfl⟩⟩

theorem map {attempt : Except ε α} {condition : Prop} {value : α}
    (h : GivesWhen attempt condition value) (f : α → β) :
    GivesWhen (attempt >>= fun found => Pure.pure (f found)) condition (f value) := by
  simpa only [and_true] using h.bind (fun found => Pure.pure (f found)) pure

/-- Items give their values together when each of them gives its own. -/
theorem mapM {attempt : α → Except ε β} {condition : α → Prop} {value : α → β}
    (h : ∀ item, GivesWhen (attempt item) (condition item) (value item)) (items : List α) :
    GivesWhen (items.mapM attempt) (∀ item ∈ items, condition item) (items.map value) := by
  induction items with
  | nil => simpa using pure
  | cons first rest ih =>
    rw [List.mapM_cons]
    simpa only [List.forall_mem_cons, List.map_cons] using (h first).bind _ (ih.map _)

theorem congr {attempt : Except ε α} {condition condition' : Prop} {value : α}
    (h : GivesWhen attempt condition value) (hcondition : condition ↔ condition') :
    GivesWhen attempt condition' value := fun found => by
  rw [← hcondition]
  exact h found

/-- An attempt gives something exactly under its condition. -/
theorem exists_iff {attempt : Except ε α} {condition : Prop} {value : α}
    (h : GivesWhen attempt condition value) : (∃ found, attempt = .ok found) ↔ condition := by
  simp [h _]

end GivesWhen

end DiceRoll
