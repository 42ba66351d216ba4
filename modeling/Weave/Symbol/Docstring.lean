import Weave.Symbol.Definition

/-!
# Docstrings

The docstring of a definition is the string literal in triple quotes that opens its body, after the
line on which the header's colon stands.  The module finds it, removes it, and reads the
descriptions of parameters from its `Args:` section.
-/

namespace Weave.Docstring

/-! ## The end of a header -/

/-- How a line of a header leaves off: at the closing colon with the text after it, or with
brackets still open. -/
inductive HeaderLine where
  | colon (tail : Text)
  | continues (depth : Int)
  deriving DecidableEq, Repr

/-- Reads a line of a header for its colon, outside brackets, strings and comments.  `quote` is the
open quote; a backslash in a string hides the character after it. -/
def scanHeaderLine (quote : Option Char) (depth : Int) : Text → HeaderLine
  | [] => .continues depth
  | c :: t =>
    match quote with
    | some q =>
      if c = q then scanHeaderLine none depth t
      else if c = '\\' then
        match t with
        | [] => .continues depth
        | _ :: t => scanHeaderLine quote depth t
      else scanHeaderLine quote depth t
    | none =>
      if c = '\'' ∨ c = '"' then scanHeaderLine (some c) depth t
      else if c = '#' then .continues depth
      else if c = '(' ∨ c = '[' ∨ c = '\x7b' then scanHeaderLine none (depth + 1) t
      else if c = ')' ∨ c = ']' ∨ c = '\x7d' then scanHeaderLine none (depth - 1) t
      else if c = ':' ∧ depth = 0 then .colon t
      else scanHeaderLine none depth t

/-- Whether nothing but a comment follows. -/
def isCommentTail (tail : Text) : Bool := tail.trim.isEmpty || tail.trim.startsWith "#"

/-- The number of the line with the header's colon, counted from `n`.  There is none when code
follows the colon on its line.  No string of a header runs over a line's end. -/
def headerEndFrom (n : Nat) (depth : Int) : List Text → Option Nat
  | [] => none
  | line :: lines =>
    match scanHeaderLine none depth line with
    | .colon tail => if isCommentTail tail then some n else none
    | .continues depth => headerEndFrom (n + 1) depth lines

/-- The number of the line on which the header of the first definition ends. -/
def headerEnd? (lines : List Text) : Option Nat := do
  let start ← lines.findIdx? fun line => (Definition.parse? line.trimStart).isSome
  headerEndFrom start 0 (lines.drop start)

/-! ## The docstring of a body -/

/-- The lines of a docstring, the last one included, and its inner text. -/
structure Found where
  first : Nat
  last : Nat
  text : Text
  deriving DecidableEq, Repr

/-- A letter that may stand before the quotes of a string. -/
def isStringPrefix (c : Char) : Bool := c ∈ ['r', 'R', 'u', 'U', 'b', 'B']

/-- The quotes of a triple-quoted string at the start of a text, and what follows them. -/
def tripleQuote? (t : Text) : Option (Text × Text) :=
  match Text.dropPrefix? "\"\"\"" t with
  | some rest => some ("\"\"\"".toList, rest)
  | none => (Text.dropPrefix? "\x27\x27\x27" t).map fun rest => ("\x27\x27\x27".toList, rest)

/-- The quotes that open a docstring, after at most two letters, and what follows them. -/
def opening? (t : Text) : Option (Text × Text) :=
  tripleQuote? (t.drop (min 2 (t.takeWhile isStringPrefix).length))

/-- Reads on for the closing quotes: the text so far and the number of the line that is read. -/
def closing? (quotes : Text) (first : Nat) (text : Text) (n : Nat) : List Text → Option Found
  | [] => none
  | line :: lines =>
    match Text.splitFirst? quotes line with
    | some (before, _) => some ⟨first, n, text ++ before⟩
    | none => closing? quotes first (text ++ line) (n + 1) lines

/-- The docstring of the first definition of some lines. -/
def find? (lines : List Text) : Option Found := do
  let header ← headerEnd? lines
  let body := lines.drop (header + 1)
  let first := header + 1 + (body.takeWhile Text.isAllSpace).length
  match body.dropWhile Text.isAllSpace with
  | [] => none
  | line :: later =>
    let (quotes, rest) ← opening? line.trimStart
    closing? quotes first [] first (rest :: later)

/-- Code without the docstring of its first definition.  Blank lines after it shrink to one, or
vanish when nothing follows. -/
def strip (code : Text) : Text :=
  let lines := code.chunks
  match find? lines with
  | none => code
  | some doc =>
    let after := lines.drop (doc.last + 1)
    let blanks := after.takeWhile Text.isAllSpace
    let rest := after.dropWhile Text.isAllSpace
    (lines.take doc.first).flatten
      ++ (if rest.isEmpty then [] else blanks.take 1).flatten ++ rest.flatten

/-- The inner text of the docstring of the first definition. -/
def text? (code : Text) : Option Text := (find? code.chunks).map (·.text)

/-! ## The section of parameters -/

/-- The titles of a section of parameters. -/
def sectionTitles : List Text :=
  ["Args".toList, "Arguments".toList, "Parameters".toList, "Params".toList]

/-- Whether a line is the header of a section of parameters. -/
def isArgsHeader (line : Text) : Bool :=
  match Text.dropSuffix? ":" line.trim with
  | some title => sectionTitles.contains title.trimEnd
  | none => false

/-- What follows a type in parentheses, or the text itself when it starts with none. -/
def afterType (t : Text) : Text :=
  match t with
  | '(' :: rest =>
    match Text.splitFirst? ")" rest with
    | some (_, after) => after.trimStart
    | none => t
  | _ => t

/-- Reads an entry `name (type): description`, with up to two stars before the name. -/
def entry? (line : Text) : Option (Text × Text) := do
  let t := line.trimStart
  let t := t.drop (min 2 (t.takeWhile (· == '*')).length)
  let name ← Definition.name? t
  let rest := afterType (Text.trimStart (t.drop name.length))
  let description ← Text.dropPrefix? ":" rest
  return (name, description.trim)

/-- A line joined to a description with a single space. -/
def joinLine (description line : Text) : Text :=
  if description.isEmpty then line.trim else description ++ " " ++ line.trim

/-- A line joined to the description of the last entry. -/
def continueLast (line : Text) : List (Text × Text) → List (Text × Text)
  | [] => []
  | [(name, description)] => [(name, joinLine description line)]
  | e :: entries => e :: continueLast line entries

/-- Reads the lines of a section.  Entries stand no deeper than the entry before them; deeper lines
continue the last entry; a line no deeper than the header ends the section. -/
def readEntries (header : Nat) (entryIndent : Option Nat) (entries : List (Text × Text)) :
    List Text → List (Text × Text)
  | [] => entries
  | line :: lines =>
    if line.isAllSpace then readEntries header entryIndent entries lines
    else
      let indent := indentOf line
      if indent ≤ header then entries
      else
        match (if entryIndent.all (indent ≤ ·) then entry? line else none) with
        | some entry => readEntries header (some indent) (entries ++ [entry]) lines
        | none => readEntries header entryIndent (continueLast line entries) lines

/-- The names and descriptions in the first section of parameters of a docstring. -/
def argDescriptions (doc : Text) : List (Text × Text) :=
  match doc.lines.dropWhile (!isArgsHeader ·) with
  | [] => []
  | header :: lines => readEntries (indentOf header) none [] lines

end Weave.Docstring
