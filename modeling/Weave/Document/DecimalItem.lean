import Weave.Document.Node
import Weave.Text.Lines
import Weave.Text.Space

/-!
# Decimal sub-items

Markdown reads a line such as `2.1. text` after an ordered item as more text of that item.
`splitDecimalItems` makes items of such lines: each piece holds the text up to the next marker
line, and its span reaches to that line in the source.
-/

namespace Weave

/-- The marker `N.N.` at the start of a text: two or more groups of digits, each with a dot after
it, and white space after the last dot. -/
def decimalMarker? (t : Text) : Option Text :=
  let marker := t.takeWhile (!Text.isSpace ·)
  if marker.length = t.length then none
  else
    match Text.dropSuffix? "." marker with
    | none => none
    | some body =>
      let parts := body.splitOn '.'
      if 1 < parts.length ∧ parts.all (fun part => !part.isEmpty && part.all Char.isDigit) then
        some marker
      else none

/-- The offset of the first of these lines that starts with the marker, where the lines begin at
`offset`. -/
def markerLine? (marker : Text) (offset : Nat) : List Text → Option Nat
  | [] => none
  | line :: lines =>
    if line.trimStart.startsWith marker then some offset
    else markerLine? marker (offset + line.byteLength) lines

/-- The offset of the first line after the first in the range that starts with the marker. -/
def continuationLine? (source : Text) (start stop : Nat) (marker : Text) : Option Nat := do
  let t ← source.slice? start (min stop source.byteLength)
  match t.chunks with
  | [] => none
  | first :: rest => markerLine? marker (start + first.byteLength) rest

/-- The marker of a line that begins with these inlines. -/
def lineMarker? : List Inline → Option Text
  | .text t :: _ => decimalMarker? t
  | _ => none

/-- The pieces of a paragraph, each with the offset where it starts; `read` holds what has been
read of the current piece. -/
def decimalPieces (source : Text) (stop start : Nat) (read : List Inline) :
    List Inline → List (Nat × List Inline)
  | [] => [(start, read)]
  | .softBreak :: rest =>
    match lineMarker? rest with
    | none => decimalPieces source stop start (read ++ [.softBreak]) rest
    | some marker =>
      match continuationLine? source start stop marker with
      | none => [(start, read ++ .softBreak :: rest)]
      | some next => (start, read) :: decimalPieces source stop next [] rest
  | x :: rest => decimalPieces source stop start (read ++ [x]) rest

/-- The items of the pieces: each ends where the next one starts, the first keeps the variant, and
the last gets the further children. -/
def pieceItems (stop : Nat) (others : List Node) (variant : Option Text) :
    List (Nat × List Inline) → List ListItem
  | [] => []
  | [(start, content)] => [⟨.paragraph content :: others, variant, ⟨start, stop⟩⟩]
  | (start, content) :: (next, more) :: pieces =>
    ⟨[.paragraph content], variant, ⟨start, next⟩⟩
      :: pieceItems stop others none ((next, more) :: pieces)

/-- The items that an ordered item stands for, one for each decimal marker line of its first
paragraph. -/
def splitDecimalItems (source : Text) (item : ListItem) : List ListItem :=
  match item.children with
  | .paragraph content :: others =>
    pieceItems item.span.stop others item.variant
      (decimalPieces source item.span.stop item.span.start [] content)
  | _ => [item]

end Weave
