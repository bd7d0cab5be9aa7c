import DiceRoll.Text.Blank

/-!
# Files of variable assignments

A reader of files that stands in for a library. A file assigns values to names, one assignment after
another. A name may follow the word export and may be quoted. A value is quoted with single or
double quotes, and may then span lines, or runs to the end of its line, without a comment that
follows a blank. A name without an equals sign has no value. Lines that begin with a number sign are
comments, and what cannot be read is passed over to the end of its line.
-/

namespace DiceRoll.Dotenv

open Text (isSpace)

/-- An assignment, or a name without a value. -/
structure Entry where
  name : Text
  value : Option Text
deriving DecidableEq, Repr

/-- Whether a character is white space within a line. -/
def isLineSpace (c : Char) : Bool :=
  isSpace c && c != '\n'

/-- The text with each of the three line endings written as a line feed. -/
def normalizeLines : Text → Text
  | '\r' :: '\n' :: rest => '\n' :: normalizeLines rest
  | '\r' :: rest => '\n' :: normalizeLines rest
  | c :: rest => c :: normalizeLines rest
  | [] => []

/-- The text after the rest of the current line. -/
def nextLine (s : Text) : Text :=
  (s.dropWhile (· ≠ '\n')).drop 1

/-- The text after the word export and the white space that must follow it, if it stands there. -/
def skipExport (s : Text) : Text :=
  match s with
  | 'e' :: 'x' :: 'p' :: 'o' :: 'r' :: 't' :: c :: rest =>
    if isLineSpace c then rest.dropWhile isLineSpace else s
  | _ => s

/-- Splits a text at the quote that closes a quoted part. A quote that a backslash escapes closes it
only when no other quote does; `escaped` says whether the first character is escaped. -/
def closeQuote (quote : Char) (escaped : Bool) : Text → Option (Text × Text)
  | [] => none
  | c :: rest =>
    if c = quote ∧ !escaped then some ([], rest)
    else
      match closeQuote quote (c == '\\' && !escaped) rest with
      | some (inside, after) => some (c :: inside, after)
      | none => if c = quote then some ([], rest) else none

/-- The character that a letter after a backslash stands for between double quotes. -/
def escapedChar? : Char → Option Char
  | '\\' => some '\\'
  | '\'' => some '\''
  | '"' => some '"'
  | 'a' => some '\x07'
  | 'b' => some '\x08'
  | 'f' => some '\x0c'
  | 'n' => some '\n'
  | 'r' => some '\r'
  | 't' => some '\t'
  | 'v' => some '\x0b'
  | _ => none

/-- Between single quotes only the backslash and the single quote can be escaped. -/
def escapedInSingle? : Char → Option Char
  | '\\' => some '\\'
  | '\'' => some '\''
  | _ => none

/-- Resolves the escapes of a quoted value; a backslash before any other character stays. -/
def unescape (escaped? : Char → Option Char) : Text → Text
  | '\\' :: c :: rest =>
    match escaped? c with
    | some meant => meant :: unescape escaped? rest
    | none => '\\' :: unescape escaped? (c :: rest)
  | c :: rest => c :: unescape escaped? rest
  | [] => []

/-- A value without quotes, cut where a comment follows white space. -/
def cutComment : Text → Text
  | [] => []
  | c :: rest =>
    if isSpace c && ((c :: rest).dropWhile isSpace).head? == some '#' then []
    else c :: cutComment rest

/-- Reads a name, or nothing at a comment, and gives the rest; fails where no name can stand. -/
def readName (s : Text) : Option (Option Text × Text) :=
  match s with
  | '#' :: _ => some (none, s)
  | '\'' :: rest =>
    match rest.span (· ≠ '\'') with
    | (name, '\'' :: rest) => if name.isEmpty then none else some (some name, rest)
    | _ => none
  | _ =>
    match s.span fun c => !(isSpace c || c == '=' || c == '#') with
    | ([], _) => none
    | (name, rest) => some (some name, rest)

/-- Reads the value that follows an equals sign, and gives the rest; fails at a quote that is never
closed. -/
def readValue (s : Text) : Option (Text × Text) :=
  match s.dropWhile isLineSpace with
  | '\'' :: rest => (closeQuote '\'' false rest).map fun (value, rest) =>
      (unescape escapedInSingle? value, rest)
  | '"' :: rest => (closeQuote '"' false rest).map fun (value, rest) =>
      (unescape escapedChar? value, rest)
  | _ =>
    let (value, rest) := s.span (· ≠ '\n')
    some (Text.trimSpace (cutComment value), rest)

/-- The text after the end of the line, which only white space and a comment may precede. -/
def endLine? (s : Text) : Option Text :=
  let rest := s.dropWhile isLineSpace
  match if rest.head? = some '#' then rest.dropWhile (· ≠ '\n') else rest with
  | [] => some []
  | '\n' :: rest => some rest
  | _ => none

/-- What one step of reading a file gave. -/
structure Step where
  entry : Option Entry
  /-- The text still to be read. -/
  rest : Text

/-- Reads one assignment, comment or unreadable line. -/
def step (s : Text) : Step :=
  let start := skipExport s
  match readName start with
  | none => ⟨none, nextLine start⟩
  | some (name, rest) =>
    let rest := rest.dropWhile isLineSpace
    match rest with
    | '=' :: assigned =>
      match readValue assigned with
      | none => ⟨none, nextLine assigned⟩
      | some (value, rest) =>
        match endLine? rest with
        | some next => ⟨name.map (⟨·, some value⟩), next⟩
        | none => ⟨none, nextLine rest⟩
    | _ =>
      match endLine? rest with
      | some next => ⟨name.map (⟨·, none⟩), next⟩
      | none => ⟨none, nextLine rest⟩

/-- The entries of a text whose lines end in line feeds. Each step reads at least one character. -/
def readEntries (s : Text) : List Entry :=
  let start := s.dropWhile isSpace
  let next := step start
  if next.rest.length < s.length then next.entry.toList ++ readEntries next.rest
  else next.entry.toList
termination_by s.length

/-- The text of a file without the mark that may stand at its start to tell its encoding. -/
def dropMark : Text → Text
  | '\ufeff' :: s => s
  | s => s

/-- The entries of a file, in order. -/
def entries (file : Text) : List Entry :=
  readEntries (normalizeLines (dropMark file))

end DiceRoll.Dotenv
