import DiceRoll.Text.Basic

/-!
# References in values

Where values of a file are read as a library reads them, they may refer to variables. A reference is
a dollar sign and a name in braces, with or without a fallback after a colon and a minus sign. It
stands for what the variable holds, and for the fallback where the variable is not known. Whatever
is not written so stands for itself, and what takes the place of a reference is not looked at again.
-/

namespace DiceRoll

/-- A reference to a variable. -/
structure Reference where
  name : Text
  /-- What stands in for a variable that is not known. -/
  fallback : Text := []
deriving DecidableEq, Repr

namespace Reference

/-- Whether a character belongs to the name of a variable. -/
def inName (c : Char) : Bool :=
  c != '\x7d' && c != ':'

/-- Reads a reference from behind its opening brace, and gives the rest. -/
def readOpened? (s : Text) : Option (Reference × Text) :=
  let name := s.takeWhile inName
  match s.dropWhile inName with
  | '\x7d' :: rest => some ({ name }, rest)
  | ':' :: '-' :: s =>
    match s.dropWhile (· ≠ '\x7d') with
    | _ :: rest => some ({ name, fallback := s.takeWhile (· ≠ '\x7d') }, rest)
    | [] => none
  | _ => none

/-- Reads a reference at the start of a text, and gives the rest. -/
def read? : Text → Option (Reference × Text)
  | '$' :: '\x7b' :: s => readOpened? s
  | _ => none

theorem length_lt_of_readOpened? {s rest : Text} {reference : Reference}
    (h : readOpened? s = some (reference, rest)) : rest.length < s.length := by
  have hname := (List.dropWhile_suffix (l := s) inName).length_le
  unfold readOpened? at h
  split at h
  · rename_i after heq
    simp only [Option.some.injEq, Prod.mk.injEq] at h
    simp only [heq, List.length_cons, h.2] at hname
    omega
  · rename_i opened heq
    have hfallback := (List.dropWhile_suffix (l := opened) (· ≠ '\x7d')).length_le
    simp only [heq, List.length_cons] at hname
    split at h
    · rename_i c after heq'
      simp only [Option.some.injEq, Prod.mk.injEq] at h
      simp only [heq', List.length_cons, h.2] at hfallback
      omega
    · simp at h
  · simp at h

/-- Reading a reference consumes text. -/
theorem length_lt_of_read? {s rest : Text} {reference : Reference}
    (h : read? s = some (reference, rest)) : rest.length < s.length := by
  unfold read? at h
  split at h
  · have := length_lt_of_readOpened? h
    simp only [List.length_cons]
    omega
  · simp at h

end Reference

/-- A part of a value. -/
inductive ValuePart where
  /-- A character that stands for itself. -/
  | plain (c : Char)
  /-- A reference to a variable. -/
  | ref (reference : Reference)
deriving DecidableEq, Repr

namespace ValuePart

/-- The parts of a value, in order. -/
def ofText : Text → List ValuePart
  | [] => []
  | c :: rest =>
    match _h : Reference.read? (c :: rest) with
    | some (found, after) => .ref found :: ofText after
    | none => .plain c :: ofText rest
termination_by s => s.length
decreasing_by
  · exact Reference.length_lt_of_read? ‹_›
  · simp

/-- The names of the variables that a value refers to. -/
def names (parts : List ValuePart) : List Text :=
  parts.filterMap fun
    | .plain _ => none
    | .ref reference => some reference.name

/-- What a part stands for. -/
def resolve (lookup : Text → Option Text) : ValuePart → Text
  | .plain c => [c]
  | .ref reference => (lookup reference.name).getD reference.fallback

/-- The value with what its references stand for in their places. -/
def expand (lookup : Text → Option Text) (value : Text) : Text :=
  (ofText value).flatMap (resolve lookup)

end ValuePart

end DiceRoll
