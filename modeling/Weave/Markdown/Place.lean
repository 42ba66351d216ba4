import Weave.Text.Basic

/-!
# Places

A markdown text is read at places.  A place knows the text on both of its sides, so that a reader
may look back as well as ahead, and its byte offset.

A line ends with a line feed, a carriage return, or both together, and at the end of the text.
Code, HTML and headings are kept verbatim up to the next line feed, whatever carriage returns stand
before it.
-/

namespace Weave.Markdown

/-! ## Lines -/

/-- White space inside a line. -/
def isInnerSpace (c : Char) : Bool := c == ' ' || c == '\t' || c == '\x0b' || c == '\x0c'

/-- A character that ends a line. -/
def isEnding (c : Char) : Bool := c == '\n' || c == '\r'

/-- White space, line endings included. -/
def isAnySpace (c : Char) : Bool := isInnerSpace c || isEnding c

/-- The length of the line ending that a text begins with; the end of the text has none. -/
def endingLength? : Text → Option Nat
  | [] => some 0
  | '\r' :: '\n' :: _ => some 2
  | c :: _ => if isEnding c then some 1 else none

/-- Whether the line has been read. -/
def atLineEnd (t : Text) : Bool := (endingLength? t).isSome

/-- The number of characters of white space inside a line that a text begins with. -/
def spaceLength (t : Text) : Nat := (t.takeWhile isInnerSpace).length

/-- The length of the rest of a line with its ending, if nothing but white space is left of it. -/
def blankLength? (t : Text) : Option Nat :=
  let spaces := spaceLength t
  (endingLength? (t.drop spaces)).map (spaces + ·)

/-- Whether nothing but white space is left of a line. -/
def isBlankLine (t : Text) : Bool := (blankLength? t).isSome

/-- The rest of a line without its ending. -/
def lineText (t : Text) : Text := t.takeWhile fun c => !isEnding c

/-- The text up to its first line feed, which belongs to it. -/
def throughFeed : Text → Text
  | [] => []
  | c :: t => if c = '\n' then [c] else c :: throughFeed t

/-- A verbatim line as it is kept: a carriage return in front of its last character goes away. -/
def verbatimLine (line : Text) : Text :=
  match line.reverse with
  | c :: '\r' :: before => if c.utf8Size = 1 then (c :: before).reverse else line
  | _ => line

/-! ## Byte offsets -/

/-- The characters that begin in the first `n` bytes. -/
def takeBytes : (n : Nat) → Text → Text
  | _, [] => []
  | n, c :: t => if n = 0 then [] else c :: takeBytes (n - c.utf8Size) t

/-- The text behind the characters that begin in the first `n` bytes. -/
def dropBytes : (n : Nat) → Text → Text
  | _, [] => []
  | n, c :: t => if n = 0 then c :: t else dropBytes (n - c.utf8Size) t

/-! ## Places -/

/-- A place in a text. -/
structure Place where
  /-- The text before the place, the latest character first. -/
  before : Text
  /-- The text behind the place. -/
  rest : Text
  /-- The number of bytes before the place. -/
  offset : Nat
  deriving DecidableEq, Repr, Inhabited

namespace Place

/-- The start of a text. -/
def ofText (t : Text) : Place := ⟨[], t, 0⟩

/-- The place behind the next `n` characters. -/
def advance : (n : Nat) → Place → Place
  | 0, p => p
  | n + 1, p =>
    match p.rest with
    | [] => p
    | c :: rest => advance n ⟨c :: p.before, rest, p.offset + c.utf8Size⟩

/-- Advancing drops the characters that are passed. -/
theorem rest_advance (n : Nat) (p : Place) : (p.advance n).rest = p.rest.drop n := by
  induction n generalizing p with
  | zero => simp [advance]
  | succ n ih =>
    obtain ⟨before, rest, offset⟩ := p
    cases rest with
    | nil => simp [advance]
    | cons c rest => simp [advance, ih]

/-- The place behind the white space of a line. -/
def skipSpaces (p : Place) : Place := p.advance (spaceLength p.rest)

/-- The number of characters of a class right before the place. -/
def countBefore (f : Char → Bool) (p : Place) : Nat := (p.before.takeWhile f).length

/-- The text between the place and a later offset. -/
def textTo (p : Place) (stop : Nat) : Text := takeBytes (stop - p.offset) p.rest

end Place

end Weave.Markdown
