import DiceRoll.Proofs.Formula.Token
import Mathlib

/-!
# Cutting a text into tokens

The tokens of a text are told apart by its signs: a run of signs stands in front of each token, and
its last sign is the sign of the token. Only the first run may be missing. Every sign inside a token
comes right after the letter d, and a token that another one follows is closed, so there is one way
only to cut a text like this, and reading tokens finds it. In particular, closed tokens that are
written one after the other, each behind its sign, are the tokens of the text that they make up.
-/

namespace DiceRoll.Token

/-! ### Runs of signs -/

/-- A run of signs, the last of which is the given one. -/
structure IsRun (sign : Sign) (run : Text) : Prop where
  isSome : ∀ c ∈ run, (Sign.ofChar? c).isSome
  getLast?_eq : run.getLast? = some sign.toChar

/-- A run of signs behind a sign that counts where the run is empty. -/
def IsRunBehind (pending sign : Sign) (run : Text) : Prop :=
  IsRun sign run ∨ run = [] ∧ sign = pending

/-- Whether a text is made of tokens, each behind a run of signs. -/
inductive Follow : List Token → Text → Prop where
  | nil : Follow [] []
  | cons {token : Token} {rest : List Token} {run s : Text} (hrun : IsRun token.sign run)
      (hrest : Follow rest s) : Follow (token :: rest) (run ++ token.text ++ s)

/-- A way to cut a text behind a sign into tokens. -/
structure IsCut (pending : Sign) (tokens : List Token) (s : Text) : Prop where
  /-- Every sign inside a token comes right after the letter d. -/
  signsAfterD : ∀ token ∈ tokens, SignsAfterD '+' token.text
  /-- Every token but the last one is closed: it is not empty and does not end in the letter d. -/
  closed : ∀ token ∈ tokens.dropLast, Closed token.text
  /-- A run of signs stands in front of each token; the first one may be empty. -/
  runs : ∃ first rest run later, tokens = first :: rest ∧ IsRunBehind pending first.sign run ∧
    Follow rest later ∧ s = run ++ first.text ++ later

section

variable {pending sign next : Sign} {tokens : List Token} {buffer run s : Text} {c : Char}

theorem eq_toChar_of_ofChar? (h : Sign.ofChar? c = some sign) : c = sign.toChar := by
  unfold Sign.ofChar? at h
  split at h <;> cases h <;> rfl

/-- A run is a first sign and a run behind it, which may be empty. -/
theorem isRun_cons_iff :
    IsRun sign (c :: run) ↔ ∃ next, Sign.ofChar? c = some next ∧ IsRunBehind next sign run := by
  constructor
  · intro h
    obtain ⟨hc, hrest⟩ := List.forall_mem_cons.mp h.isSome
    obtain ⟨next, hnext⟩ := Option.isSome_iff_exists.mp hc
    refine ⟨next, hnext, ?_⟩
    have hlast := h.getLast?_eq
    cases run with
    | nil =>
      obtain rfl : c = sign.toChar := by simpa using hlast
      rw [Sign.ofChar?_toChar, Option.some.injEq] at hnext
      exact .inr ⟨rfl, hnext⟩
    | cons other others =>
      rw [List.getLast?_cons_cons] at hlast
      exact .inl ⟨hrest, hlast⟩
  · rintro ⟨next, hnext, hrun | ⟨rfl, rfl⟩⟩
    · refine ⟨List.forall_mem_cons.mpr ⟨by simp [hnext], hrun.isSome⟩, ?_⟩
      rw [List.getLast?_cons, hrun.getLast?_eq]
      rfl
    · exact ⟨by simp [hnext], by rw [eq_toChar_of_ofChar? hnext]; rfl⟩

/-! ### What is read is a cut -/

/-- What is read behind an open token is the token, continued, and others behind runs of signs. -/
theorem exists_runs_scan (sign : Sign) (buffer s : Text) :
    ∃ first rest run later, scan sign buffer s = first :: rest ∧ IsRunBehind sign first.sign run ∧
      Follow rest later ∧ buffer.reverse ++ s = run ++ first.text ++ later := by
  fun_induction scan sign buffer s with
  | case1 sign buffer => exact ⟨_, [], [], [], rfl, .inr ⟨rfl, rfl⟩, .nil, by simp⟩
  | case2 sign buffer c rest hnone ih => simpa using ih
  | case3 sign c rest next hsome ih =>
    obtain ⟨first, others, run, later, hscan, hrun, hlater, heq⟩ := ih
    refine ⟨first, others, c :: run, later, hscan,
      .inl (isRun_cons_iff.mpr ⟨next, hsome, hrun⟩), hlater, ?_⟩
    simpa using heq
  | case4 sign c rest next hsome others ih => simpa using ih
  | case5 sign c rest next hsome last others hlast ih =>
    obtain ⟨first, tokens, run, later, hscan, hrun, hlater, heq⟩ := ih
    refine ⟨_, first :: tokens, [], c :: run ++ first.text ++ later, by rw [hscan],
      .inr ⟨rfl, rfl⟩, .cons (isRun_cons_iff.mpr ⟨next, hsome, hrun⟩) hlater, ?_⟩
    simpa using heq

/-- The tokens that are read from a text are closed, but for the last one. -/
theorem closed_of_mem_dropLast_scan (h : SignsAfterD '+' buffer.reverse) :
    ∀ token ∈ (scan sign buffer s).dropLast, Closed token.text := by
  fun_induction scan sign buffer s with
  | case1 sign buffer => simp
  | case2 sign buffer c rest hnone ih => exact ih (signsAfterD_reverse_cons h (by simp [hnone]))
  | case3 sign c rest next hsome ih => exact ih (by simp)
  | case4 sign c rest next hsome others ih =>
    exact ih (signsAfterD_reverse_cons h fun _ => rfl)
  | case5 sign c rest next hsome last others hlast ih =>
    rw [List.dropLast_cons_of_ne_nil (scan_ne_nil _ _ _), List.forall_mem_cons]
    exact ⟨⟨by simp, h, by simpa using hlast⟩, ih (by simp)⟩

/-! ### A cut is what is read -/

/-- Of a run of signs the last one counts. -/
theorem scan_run_append (h : IsRunBehind pending sign run) (s : Text) :
    scan pending [] (run ++ s) = scan sign [] s := by
  induction run generalizing pending with
  | nil =>
    rcases h with hrun | ⟨-, rfl⟩
    · cases hrun.getLast?_eq
    · rfl
  | cons c rest ih =>
    have hrun : IsRun sign (c :: rest) := h.resolve_right fun hnil => List.cons_ne_nil _ _ hnil.1
    obtain ⟨next, hnext, hrest⟩ := isRun_cons_iff.mp hrun
    rw [List.cons_append, scan, hnext]
    exact ih hrest

/-- Tokens behind runs of signs are read one after the other. -/
theorem scan_reverse_of_follow {text : Text} {rest : List Token} (h : Follow rest s)
    (hsigns : ∀ token ∈ rest, SignsAfterD '+' token.text)
    (hclosed : ∀ token ∈ (⟨sign, text⟩ :: rest : List Token).dropLast, Closed token.text) :
    scan sign text.reverse s = ⟨sign, text⟩ :: rest := by
  induction h generalizing sign text with
  | nil => simp [scan]
  | @cons token others run later hrun _ ih =>
    obtain ⟨hfirst, hothers⟩ := List.forall_mem_cons.mp hclosed
    obtain ⟨htoken, hrest⟩ := List.forall_mem_cons.mp hsigns
    cases run with
    | nil => cases hrun.getLast?_eq
    | cons c run =>
      obtain ⟨next, hnext, hrun⟩ := isRun_cons_iff.mp hrun
      rw [List.append_assoc, List.cons_append, scan_reverse_cons hfirst hnext,
        scan_run_append hrun, scan_nil_append htoken, ih hrest hothers]

theorem IsCut.scan_eq (h : IsCut pending tokens s) : scan pending [] s = tokens := by
  obtain ⟨first, rest, run, later, rfl, hrun, hlater, rfl⟩ := h.runs
  obtain ⟨hfirst, hrest⟩ := List.forall_mem_cons.mp h.signsAfterD
  rw [List.append_assoc, scan_run_append hrun, scan_nil_append hfirst,
    scan_reverse_of_follow hlater hrest h.closed]

theorem isCut_scan (pending : Sign) (s : Text) : IsCut pending (scan pending [] s) s where
  signsAfterD := signsAfterD_of_mem_scan (by simp)
  closed := closed_of_mem_dropLast_scan (by simp)
  runs := exists_runs_scan pending [] s

/-! ### Written tokens -/

theorem isRun_toChar (sign : Sign) : IsRun sign [sign.toChar] where
  isSome := by simp
  getLast?_eq := rfl

/-- Tokens that are written one after the other follow each other. -/
theorem follow_flatMap_write (tokens : List Token) : Follow tokens (tokens.flatMap write) := by
  induction tokens with
  | nil => exact .nil
  | cons first rest ih => exact .cons (isRun_toChar first.sign) ih

/-- Closed tokens are read back from the text that they make up. -/
theorem scan_nil_flatMap_write (hne : tokens ≠ []) (h : ∀ token ∈ tokens, Closed token.text) :
    scan .plus [] (tokens.flatMap write) = tokens := by
  obtain ⟨first, rest, rfl⟩ := List.exists_cons_of_ne_nil hne
  exact IsCut.scan_eq {
    signsAfterD := fun token htoken => (h token htoken).signsAfterD
    closed := fun token htoken => h token (List.mem_of_mem_dropLast htoken)
    runs := ⟨first, rest, [first.sign.toChar], _, rfl, .inl (isRun_toChar first.sign),
      follow_flatMap_write rest, rfl⟩ }

end

/-- A text in lower case is cut into tokens in one way, and these are the tokens of the text. -/
theorem ofText_eq_iff_isCut {s : Text} {tokens : List Token} :
    ofText s = tokens ↔ IsCut .plus tokens (Text.lower s) := by
  constructor
  · intro h
    rw [← h]
    exact isCut_scan .plus (Text.lower s)
  · exact IsCut.scan_eq

end DiceRoll.Token
