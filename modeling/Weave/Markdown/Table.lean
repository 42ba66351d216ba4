import Weave.Document.Node
import Weave.Markdown.Container

/-!
# Table headers

A table begins with a row of cells above a delimiter row of the same number of columns.  The columns
are divided by bars; a bar behind a backslash divides nothing.
-/

namespace Weave.Markdown

/-! ## Delimiter rows -/

/-- A column of a delimiter row, read up to some character. -/
structure DelimiterCell where
  begun : Bool
  hyphen : Bool
  alignment : Alignment
  deriving DecidableEq, Repr, Inhabited

namespace DelimiterCell

/-- Nothing of the column has been read. -/
def empty : DelimiterCell := ⟨false, false, .none⟩

/-- The alignment after one more colon. -/
def colon (cell : DelimiterCell) : DelimiterCell :=
  { cell with
    begun := true
    alignment :=
      match cell.begun, cell.alignment with
      | false, .none => .left
      | true, .left => .center
      | true, .none => .right
      | _, alignment => alignment }

end DelimiterCell

/-- The columns of the rest of a delimiter row. -/
def delimiterCells? (cell : DelimiterCell) : Text → Option (List Alignment)
  | [] => some (if cell.begun then [cell.alignment] else [])
  | c :: t =>
    if c = ' ' then delimiterCells? cell t
    else if c = ':' then delimiterCells? cell.colon t
    else if c = '-' then delimiterCells? { cell with begun := true, hyphen := true } t
    else if c = '|' then
      if cell.hyphen then (delimiterCells? .empty t).map (cell.alignment :: ·) else none
    else none

/-- The alignments of the columns of a delimiter row, and the place behind it.  The row holds
hyphens, with a colon on the sides that the column is aligned to, and bars between the columns.  A
row without a bar is none, nor is one behind more than three spaces. -/
def delimiterRow? (p : Place) : Option (List Alignment × Place) :=
  let line := lineText p.rest
  let row := line.dropWhile (· == ' ')
  if row.length + 3 < line.length ∨ '|' ∉ row ∨ '-' ∉ row then none
  else
    let cells := if row.head? = some '|' then row.drop 1 else row
    (delimiterCells? .empty cells).map fun alignments =>
      let behind := p.advance line.length
      (alignments, behind.advance ((endingLength? behind.rest).getD 0))

/-! ## Header rows -/

/-- The bars of a line that are not behind a backslash: their number, and what stands behind the
last one. -/
def countBars (guarded : Bool) (bars : Nat) (behind : Text) : Text → Nat × Text
  | [] => (bars, behind)
  | c :: t =>
    if c = '|' ∧ !guarded then countBars false (bars + 1) t t
    else countBars (c == '\\') bars behind t

/-- The number of columns of a line by its bars; those at its ends divide nothing.  A line without a
bar has none. -/
def columnCount? (line : Text) : Option Nat :=
  let (bars, behind) := countBars false 0 [] line
  if bars = 0 then none
  else
    let inner := if (line.dropWhile isInnerSpace).head? = some '|' then bars - 1 else bars
    some (if isBlankLine behind then inner else inner + 1)

/-- The alignments of the table that the line at a place begins as its header, and the place behind
its delimiter row, which belongs to all containers. -/
def tableHeader? (chain : List Container) (p : Place) : Option (List Alignment × Place) := do
  let line := lineText p.rest
  let columns ← columnCount? line
  let stop := p.advance line.length
  if stop.rest.isEmpty then none
  let next := stop.advance ((endingLength? stop.rest).getD 0)
  let (alignments, behind) ← delimiterRow? (← next.behindMarks? chain).toPlace
  if alignments.length = columns then some (alignments, behind) else none

end Weave.Markdown
