import DiceRoll.Formula.Token
import DiceRoll.Proofs.Formula.Token
import DiceRoll.Proofs.Report.Line
import DiceRoll.Proofs.Sequence
import DiceRoll.Proofs.Text.Separated

/-!
# Reading a breakdown

The details of a result are a sum: signs stand between numbers and groups in brackets, and the first
sign may be left out when it is a plus. A group adds up its members, which stand between plus signs
of their own. Reading the details of a result gives back what its sets kept and its modifiers.
-/

namespace DiceRoll

/-- What a sum adds or subtracts. -/
inductive Summand where
  | number (value : Int)
  | group (members : List Int)
deriving DecidableEq, Repr

namespace Summand

/-- The value of a summand: a group adds up its members. -/
def value : Summand → Int
  | number value => value
  | group members => members.sum

/-- Reads the members of a group. -/
def members? (s : Text) : Option (List Int) :=
  if s.isEmpty then some [] else (s.splitOn '+').mapM Text.literal?

/-- Reads a summand. -/
def read? : Text → Option Summand
  | '[' :: rest =>
    match rest.span (· ≠ ']') with
    | (inner, [']']) => (members? inner).map group
    | _ => none
  | s => (Text.literal? s).map number

end Summand

namespace Breakdown

/-- Splits a text at the signs outside brackets, into what comes before the first of them and each
sign with what follows it. -/
def split (inBrackets : Bool) : Text → Text × List (Sign × Text)
  | [] => ([], [])
  | c :: rest =>
    match Sign.ofChar? c, inBrackets with
    | some sign, false =>
      let (piece, others) := split false rest
      ([], (sign, piece) :: others)
    | _, _ =>
      let (piece, others) := split (c == '[' || inBrackets && c != ']') rest
      (c :: piece, others)

/-- The pieces of a sum with their signs; a first sign that is left out is a plus. -/
def pieces (s : Text) : List (Sign × Text) :=
  match split false s with
  | ([], others) => others
  | (piece, others) => (.plus, piece) :: others

/-- Reads a sum. -/
def read? (s : Text) : Option (List (Sign × Summand)) :=
  (pieces s).mapM fun (sign, piece) => (Summand.read? piece).map (sign, ·)

/-- What signed summands add up to. -/
def total (summands : List (Sign × Summand)) : Int :=
  (summands.map fun (sign, summand) => sign.apply summand.value).sum

/-- The value of a text that is a sum. -/
def value? (s : Text) : Option Int :=
  (read? s).map total

end Breakdown

/-! ### Reading what is written -/

/-- Joined numerals are made of digits and the separator. -/
theorem Text.isDigit_of_mem_intercalate {separator : Char} {members : List Int}
    (h : ∀ member ∈ members, 0 ≤ member) {c : Char}
    (hc : c ∈ [separator].intercalate (members.map Text.ofInt)) :
    c = separator ∨ c.isDigit = true := by
  cases members with
  | nil => simp at hc
  | cons first rest =>
    rw [List.map_cons, Text.intercalate_cons] at hc
    rcases List.mem_append.mp hc with hc | hc
    · exact .inr (Text.isDigit_of_mem_ofInt (h first List.mem_cons_self) c hc)
    · obtain ⟨_, htext, hc⟩ := List.mem_flatMap.mp hc
      obtain ⟨member, hmember, rfl⟩ := List.mem_map.mp htext
      refine (List.mem_cons.mp hc).imp_right fun hc => ?_
      exact Text.isDigit_of_mem_ofInt (h member (List.mem_cons_of_mem first hmember)) c hc

namespace Summand

/-- The numbers of a summand carry no sign of their own and are short enough to be written. -/
def Plain : Summand → Prop
  | number value => 0 ≤ value ∧ Text.fits value = true
  | group members => ∀ member ∈ members, 0 ≤ member ∧ Text.fits member = true

/-- The text of a summand. -/
def write : Summand → Text
  | number value => Text.ofInt value
  | group members => '[' :: ['+'].intercalate (members.map Text.ofInt) ++ [']']

/-- The written members of a group read back. -/
theorem members?_write {members : List Int}
    (h : ∀ member ∈ members, 0 ≤ member ∧ Text.fits member = true) :
    members? (['+'].intercalate (members.map Text.ofInt)) = some members := by
  unfold members?
  cases members with
  | nil => rfl
  | cons first rest =>
    have hne : ['+'].intercalate ((first :: rest).map Text.ofInt) ≠ [] := by
      simp [Text.intercalate_cons]
    have hread : ((first :: rest).map Text.ofInt).mapM Text.literal? = some (first :: rest) :=
      mapM_map_eq_some fun member hmember => Text.literal?_ofInt (h member hmember).2
    rw [if_neg (by simpa using hne), List.splitOn_intercalate _ _ (by simp), hread]
    intro text htext
    obtain ⟨member, -, rfl⟩ := List.mem_map.mp htext
    exact Text.not_mem_ofInt (by decide) (by decide)

theorem write_ne_nil (summand : Summand) : summand.write ≠ [] := by
  cases summand <;> simp [write]

/-- A written summand reads back. -/
theorem read?_write {summand : Summand} (h : summand.Plain) :
    read? summand.write = some summand := by
  cases summand with
  | number value =>
    have hopen : '[' ∉ Text.ofInt value := Text.not_mem_ofInt (by decide) (by decide)
    rw [write, read?, Text.literal?_ofInt h.2]
    · rfl
    · exact fun rest heq => hopen (heq ▸ List.mem_cons_self)
  | group members =>
    have hinner : ']' ∉ ['+'].intercalate (members.map Text.ofInt) := fun hc => by
      have hdigit := Text.isDigit_of_mem_intercalate (fun member hmember => (h member hmember).1) hc
      exact absurd hdigit (by decide)
    have hspan : (['+'].intercalate (members.map Text.ofInt) ++ [']']).span (· ≠ ']') =
        (['+'].intercalate (members.map Text.ofInt), [']']) :=
      span_ne_eq_cons_iff.mpr ⟨rfl, hinner, rfl⟩
    rw [write, List.cons_append, read?, hspan]
    simp only [members?_write h, Option.map_some]

end Summand

namespace Breakdown

theorem split_cons_sign {c : Char} {sign : Sign} (h : Sign.ofChar? c = some sign) (rest : Text) :
    split false (c :: rest) = ([], (sign, (split false rest).1) :: (split false rest).2) := by
  simp only [split, h]

theorem split_cons {inBrackets : Bool} {c : Char} (h : Sign.ofChar? c = none ∨ inBrackets = true)
    (rest : Text) :
    split inBrackets (c :: rest) =
      (c :: (split (c == '[' || inBrackets && c != ']') rest).1,
        (split (c == '[' || inBrackets && c != ']') rest).2) := by
  rw [split]
  rintro sign hsign rfl
  simp [hsign] at h

/-- Characters that are no brackets, and no signs outside brackets, belong to one piece. -/
theorem split_append {inBrackets : Bool} {s : Text} (rest : Text)
    (h : ∀ c ∈ s, c ≠ '[' ∧ c ≠ ']' ∧ (Sign.ofChar? c = none ∨ inBrackets = true)) :
    split inBrackets (s ++ rest) =
      (s ++ (split inBrackets rest).1, (split inBrackets rest).2) := by
  induction s with
  | nil => rfl
  | cons c s ih =>
    obtain ⟨hopen, hclose, hsign⟩ := h c List.mem_cons_self
    have hflag : (c == '[' || inBrackets && c != ']') = inBrackets := by
      rw [beq_eq_false_iff_ne.mpr hopen, bne_iff_ne.mpr hclose, Bool.false_or, Bool.and_true]
    rw [List.cons_append, split_cons hsign, hflag,
      ih fun other hother => h other (List.mem_cons_of_mem c hother)]
    rfl

/-- A written summand belongs to one piece. -/
theorem split_write {summand : Summand} (h : summand.Plain) (rest : Text) :
    split false (summand.write ++ rest) =
      (summand.write ++ (split false rest).1, (split false rest).2) := by
  cases summand with
  | number value =>
    refine split_append rest fun c hc => ?_
    have hdigit := Text.isDigit_of_mem_ofInt h.1 c hc
    exact ⟨Text.ne_of_isDigit hdigit (by decide), Text.ne_of_isDigit hdigit (by decide),
      .inl (Sign.ofChar?_of_isDigit hdigit)⟩
  | group members =>
    have hplain : ∀ c ∈ ['+'].intercalate (members.map Text.ofInt),
        c ≠ '[' ∧ c ≠ ']' ∧ (Sign.ofChar? c = none ∨ true = true) := by
      intro c hc
      have hdigit :=
        Text.isDigit_of_mem_intercalate (fun member hmember => (h member hmember).1) hc
      refine ⟨?_, ?_, .inr rfl⟩
      all_goals rintro rfl; exact absurd hdigit (by decide)
    have hinner (rest : Text) := split_append rest hplain
    have hopen (rest : Text) := @split_cons false '[' (.inl rfl) rest
    have hclose (rest : Text) := @split_cons true ']' (.inr rfl) rest
    simp only [Summand.write, List.cons_append, List.append_assoc, List.nil_append, hopen]
    simp [hinner, hclose]

/-- A signed summand behind its sign. -/
def writeSigned (signed : Sign × Summand) : Text :=
  signed.1.toChar :: signed.2.write

/-- Signed summands, each behind its sign, are split at their signs. -/
theorem split_flatMap_writeSigned {summands : List (Sign × Summand)}
    (h : ∀ signed ∈ summands, signed.2.Plain) :
    split false (summands.flatMap writeSigned) =
      ([], summands.map fun signed => (signed.1, signed.2.write)) := by
  induction summands with
  | nil => rfl
  | cons first rest ih =>
    obtain ⟨hfirst, hrest⟩ := List.forall_mem_cons.mp h
    rw [List.flatMap_cons, writeSigned, List.cons_append,
      split_cons_sign (Sign.ofChar?_toChar first.1), split_write hfirst, ih hrest]
    simp

/-- Signed summands in writing, where a first plus sign is left out. -/
def write : List (Sign × Summand) → Text
  | [] => []
  | (.plus, first) :: rest => first.write ++ rest.flatMap writeSigned
  | summands => summands.flatMap writeSigned

theorem pieces_write {summands : List (Sign × Summand)}
    (h : ∀ signed ∈ summands, signed.2.Plain) :
    pieces (write summands) = summands.map fun signed => (signed.1, signed.2.write) := by
  unfold pieces
  fun_cases write summands with
  | case1 => rfl
  | case2 first rest =>
    obtain ⟨hfirst, hrest⟩ := List.forall_mem_cons.mp h
    obtain ⟨c, tail, hwrite⟩ := List.exists_cons_of_ne_nil first.write_ne_nil
    rw [split_write hfirst, split_flatMap_writeSigned hrest]
    simp [hwrite]
  | case3 => rw [split_flatMap_writeSigned h]

/-- Written signed summands read back. -/
theorem read?_write {summands : List (Sign × Summand)}
    (h : ∀ signed ∈ summands, signed.2.Plain) : read? (write summands) = some summands := by
  rw [read?, pieces_write h]
  refine mapM_map_eq_some fun signed hsigned => ?_
  simp [Summand.read?_write (h signed hsigned)]

end Breakdown

example : Breakdown.value? "-[3+4]+[]-[5]-2+10".toList = some (-4) := by decide +kernel

end DiceRoll
