import Weave.Markdown.HtmlTag
import Weave.Markdown.Table

/-!
# Interruptions

A paragraph goes on with the lines below it, also with those that do not belong to all of its
containers, until a line is blank or begins another block.  An underline ends it as well and makes
it a heading.  A definition of a label goes on like a paragraph.
-/

namespace Weave.Markdown

/-- Whether a line ends a paragraph or a table by what it begins with; a `free` line may begin with
any list item. -/
def beginsBlock (free : Bool) (t : Text) : Bool :=
  atLineEnd t || isThematicBreak t || (headingRank? t).isSome || (FenceOpening.parse? t).isSome
    || t.head? == some '>' || ListMarker.endsParagraph free t
    || (HtmlBlockStart.parse? t).any HtmlBlockStart.endsParagraph

/-- Whether a line ends a paragraph.  The header of a table does only with a bar in front. -/
def endsParagraph (chain : List Container) (free : Bool) (t : Text) : Bool :=
  beginsBlock free t || t.head? == some '|' && (tableHeader? chain (.ofText t)).isSome

/-- A line below a paragraph, behind the marks of its containers. -/
structure LineBelow where
  /-- Whether the line belongs to all containers. -/
  belongs : Bool
  /-- Whether the line is indented like code, so that it begins no block. -/
  indented : Bool
  cursor : Cursor
  deriving Inhabited

/-- The line at a place, which stands below a paragraph. -/
def Place.below (p : Place) (chain : List Container) : LineBelow :=
  let (missing, c) := p.readMarks chain
  let (indent, d) := c.skipColumns 4
  ⟨missing.isEmpty, indent == 4, d⟩

namespace LineBelow

/-- Whether the line ends the paragraph above it. -/
def ends (l : LineBelow) (chain : List Container) : Bool :=
  !l.indented && endsParagraph chain (!l.belongs) l.cursor.rest

/-- The underline of the paragraph, if the line is one. -/
def underline? (l : LineBelow) : Option (Nat × Nat) :=
  if l.indented then none else Markdown.underline? l.cursor.rest

end LineBelow

end Weave.Markdown
