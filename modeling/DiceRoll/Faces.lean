/-!
# Sets of faces

A finite set of integers, held in ascending order without repetition, so that two sets are equal
exactly when they have the same members.
-/

namespace DiceRoll

/-- A finite set of faces. -/
@[ext] structure Faces where
  /-- The members in ascending order. -/
  toList : List Int
  ascending : toList.Pairwise (· < ·)
deriving DecidableEq, Repr

namespace Faces

instance : EmptyCollection Faces := ⟨[], List.Pairwise.nil⟩

instance : Inhabited Faces := ⟨∅⟩

instance : Membership Int Faces where
  mem faces face := face ∈ faces.toList

instance (face : Int) (faces : Faces) : Decidable (face ∈ faces) :=
  inferInstanceAs (Decidable (face ∈ faces.toList))

/-- Puts a face at its place in an ascending list, unless it is there already. -/
def insertAscending (face : Int) : List Int → List Int
  | [] => [face]
  | first :: rest =>
    if face < first then face :: first :: rest
    else if face = first then first :: rest
    else first :: insertAscending face rest

@[simp] theorem mem_insertAscending {face other : Int} {faces : List Int} :
    other ∈ insertAscending face faces ↔ other = face ∨ other ∈ faces := by
  induction faces with
  | nil => simp [insertAscending]
  | cons first rest ih =>
    unfold insertAscending
    split
    · simp
    · split
      · simp_all
      · simp only [List.mem_cons, ih, or_left_comm]

theorem insertAscending_pairwise {face : Int} {faces : List Int} (h : faces.Pairwise (· < ·)) :
    (insertAscending face faces).Pairwise (· < ·) := by
  induction faces with
  | nil => simp [insertAscending]
  | cons first rest ih =>
    obtain ⟨hfirst, hrest⟩ := List.pairwise_cons.mp h
    unfold insertAscending
    split
    · exact List.pairwise_cons.mpr ⟨fun other hother => by
        rcases List.mem_cons.mp hother with rfl | hother
        · assumption
        · have := hfirst other hother; omega, h⟩
    · split
      · exact h
      · refine List.pairwise_cons.mpr ⟨fun other hother => ?_, ih hrest⟩
        rcases mem_insertAscending.mp hother with rfl | hother
        · omega
        · exact hfirst other hother

/-- The set with one more face. -/
def insert (faces : Faces) (face : Int) : Faces :=
  ⟨insertAscending face faces.toList, insertAscending_pairwise faces.ascending⟩

/-- The set of the faces in a list, in any order and however often they occur. -/
def ofList (faces : List Int) : Faces :=
  faces.foldl insert ∅

theorem mem_toList {face : Int} {faces : Faces} : face ∈ faces.toList ↔ face ∈ faces := Iff.rfl

@[simp] theorem not_mem_empty (face : Int) : face ∉ (∅ : Faces) := List.not_mem_nil

@[simp] theorem mem_insert {face other : Int} {faces : Faces} :
    other ∈ faces.insert face ↔ other = face ∨ other ∈ faces :=
  mem_insertAscending

/-- A set built from a list has the members of the list. -/
@[simp] theorem mem_ofList {face : Int} {faces : List Int} :
    face ∈ ofList faces ↔ face ∈ faces := by
  have h (start : Faces) : face ∈ faces.foldl insert start ↔ face ∈ start ∨ face ∈ faces := by
    induction faces generalizing start with
    | nil => simp
    | cons first rest ih => simp only [List.foldl_cons, ih, mem_insert, List.mem_cons]; grind
  simp [ofList, h]

/-- Sets with the same members are equal. -/
theorem eq_of_forall_mem_iff {faces others : Faces} (h : ∀ face, face ∈ faces ↔ face ∈ others) :
    faces = others := by
  refine Faces.ext (List.Perm.eq_of_pairwise ?_ faces.ascending others.ascending ?_)
  · intro a b _ _ hab hba
    omega
  · exact (List.perm_ext_iff_of_nodup (faces.ascending.imp (by intro a b h; omega))
      (others.ascending.imp (by intro a b h; omega))).mpr h

/-- Inserting the members of a set gives the set. -/
theorem ofList_toList (faces : Faces) : ofList faces.toList = faces :=
  eq_of_forall_mem_iff fun _ => mem_ofList

end Faces

end DiceRoll
