import Weave.Markdown.Place
import Weave.Text.Space

/-!
# Heading attributes

A heading may end in a block of attributes in braces.  A word of the block that begins with a
number sign is the id of the heading; the last one counts.  The block does not show.
-/

namespace Weave.Markdown

/-- A character that may stand in a block of attributes. -/
def isAttributeBlockChar (c : Char) : Bool := !(c ∈ ['\x7b', '\x7d', '<', '>', '\\', '\n', '\r'])

/-- The text before a final block of attributes, and what stands in the block. -/
def splitAttributes? (t : Text) : Option (Text × Text) :=
  match t.reverse.dropWhile fun c => c == '\n' || c == '\r' || c == ' ' || c == '\t' with
  | '\x7d' :: inner =>
    match inner.dropWhile isAttributeBlockChar with
    | '\x7b' :: before => some (before.reverse, (inner.takeWhile isAttributeBlockChar).reverse)
    | _ => none
  | _ => none

/-- The id that a word of an attribute block gives. -/
def attributeId? (word : Text) : Option Text :=
  match word with
  | '#' :: c :: id => some (c :: id)
  | _ => none

/-- White space between the words of an attribute block, which stands in one line. -/
def separatesAttributes (c : Char) : Bool := c == ' ' || c == '\t' || c == '\x0c'

/-- The words of an attribute block. -/
def attributeWords (block : Text) : List Text := Text.wordsBetween separatesAttributes block

/-- The id that a block of attributes gives. -/
def blockId? (block : Text) : Option Text :=
  ((attributeWords block).filterMap attributeId?).getLast?

/-- A heading's text without the number signs that close it, which must follow a space. -/
def dropClosingMarks (t : Text) : Text :=
  let trimmed := Text.trimEndWhile (fun c => c == ' ' || isEnding c) t
  let body := Text.trimEndWhile (· == '#') trimmed
  if body.isEmpty then []
  else if body.getLast? = some ' ' then Text.trimEndWhile (· == ' ') body
  else trimmed

end Weave.Markdown
