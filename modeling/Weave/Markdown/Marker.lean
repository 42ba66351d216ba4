import Weave.Markdown.Cursor

/-!
# Markers

The characters that begin the blocks of a line: thematic breaks, headings, underlines, fences and
list markers.  All of them are read from the text behind the indentation.
-/

namespace Weave.Markdown

/-- The length of a thematic break with its line ending: three or more equal characters of `*`, `-`
and `_` alone on a line, with blanks between. -/
def thematicBreakLength? (t : Text) : Option Nat :=
  let line := lineText t
  match line with
  | [] => none
  | c :: _ =>
    if (c == '*' || c == '-' || c == '_') && line.all (fun d => d == c || d == ' ' || d == '\t')
        && 3 ≤ line.count c then
      (endingLength? (t.drop line.length)).map (line.length + ·)
    else none

/-- Whether a line is a thematic break. -/
def isThematicBreak (t : Text) : Bool := (thematicBreakLength? t).isSome

/-- The rank of a heading whose line begins with number signs. -/
def headingRank? (t : Text) : Option Nat :=
  let rank := (t.takeWhile (· == '#')).length
  if 1 ≤ rank ∧ rank ≤ 6 ∧ (t.drop rank).head?.all isAnySpace then some rank else none

/-- The rank of a heading whose text is underlined by this line, and the length of the line. -/
def underline? (t : Text) : Option (Nat × Nat) :=
  match t with
  | c :: _ =>
    if c = '=' ∨ c = '-' then
      let marks := (t.takeWhile (· == c)).length
      (blankLength? (t.drop marks)).map fun n => (if c = '=' then 1 else 2, marks + n)
    else none
  | [] => none

/-! ## Fences -/

/-- The opening of a fenced code block. -/
structure FenceOpening where
  mark : Char
  length : Nat
  deriving DecidableEq, Repr, Inhabited

/-- The opening fence that a line begins with.  No backtick follows a fence of backticks. -/
def FenceOpening.parse? (t : Text) : Option FenceOpening :=
  match t with
  | [] => none
  | c :: _ =>
    let length := (t.takeWhile (· == c)).length
    if (c = '`' ∨ c = '~') ∧ 3 ≤ length ∧ ¬(c = '`' ∧ '`' ∈ throughFeed (t.drop length)) then
      some ⟨c, length⟩
    else none

/-- The number of characters of the closing fence that stands alone on a line, with the spaces after
it.  The end of the text closes every fence. -/
def FenceOpening.closing? (f : FenceOpening) (t : Text) : Option Nat :=
  let marks := (t.takeWhile (· == f.mark)).length
  let spaces := ((t.drop marks).takeWhile (· == ' ')).length
  if t.isEmpty then some 0
  else if f.length ≤ marks ∧ atLineEnd (t.drop (marks + spaces)) then some (marks + spaces)
  else none

/-! ## List markers -/

/-- The marker of a list item. -/
structure ListMarker where
  /-- The bullet, or the delimiter after the number. -/
  mark : Char
  /-- The number of an ordered marker. -/
  number : Nat
  deriving DecidableEq, Repr, Inhabited

namespace ListMarker

/-- Whether a character is a bullet. -/
def isBullet (c : Char) : Bool := c == '-' || c == '+' || c == '*'

/-- Whether the marker has a number. -/
def isOrdered (m : ListMarker) : Bool := !isBullet m.mark

/-- The marker at the start of a text with its length: a bullet, or one to nine digits and a dot or
a parenthesis. -/
def split? (t : Text) : Option (ListMarker × Nat) :=
  match t with
  | [] => none
  | c :: _ =>
    if isBullet c then some (⟨c, 0⟩, 1)
    else
      let digits := t.takeWhile Char.isDigit
      match t.drop digits.length with
      | d :: _ =>
        if 1 ≤ digits.length ∧ digits.length ≤ 9 ∧ (d = '.' ∨ d = ')') then
          some (⟨d, Text.digitsValue 0 digits⟩, digits.length + 1)
        else none
      | [] => none

/-- A marker that opens an item: the cursor behind the marker, and the columns that the lines of
the item are indented by beyond `indent`.  A line that is a thematic break opens none.  Five or more
columns after the marker belong to the content but for the first one. -/
def open? (c : Cursor) (indent : Nat) : Option (ListMarker × Nat × Cursor) :=
  if isThematicBreak c.rest then none
  else
    match split? c.rest with
    | none => none
    | some (marker, length) =>
      let behind := c.advance length
      let (spaces, content) := behind.skipColumns 1
      if spaces = 0 ∧ !atLineEnd behind.rest then none
      else if isBlankLine content.rest then some (marker, indent + length + 1, content)
      else
        let (more, inner) := content.skipColumns 4
        if more < 4 then some (marker, indent + length + 1 + more, inner)
        else some (marker, indent + length + 1, content)

/-- Whether an item that a line begins with ends a paragraph.  It always does where the line is
`free`; else it must not be empty, and its number is one. -/
def endsParagraph (free : Bool) (t : Text) : Bool :=
  match split? t with
  | none => false
  | some (marker, length) =>
    let behind : Text := t.drop length
    behind.head?.all (fun c => c == ' ' || c == '\t' || isEnding c)
      && (free || (!marker.isOrdered || marker.number == 1) && !isBlankLine behind)

end ListMarker

end Weave.Markdown
