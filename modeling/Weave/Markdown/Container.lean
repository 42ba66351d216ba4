import Weave.Markdown.Marker

/-!
# Containers

Quotes, lists and list items hold other blocks.  While a text is read, the containers that are open
form a chain from the outermost to the innermost one.  A line belongs to a container if it begins
with its mark: `>` for a quote, the columns of its indentation for an item.  Lists have no mark.
-/

namespace Weave.Markdown

/-- An open container. -/
inductive Container where
  | quote
  /-- A list; the tight one has no blank line between its items or their blocks so far. -/
  | list (marker : ListMarker) (tight : Bool)
  /-- An item; its lines are indented by a number of columns. -/
  | item (indent : Nat)
  deriving DecidableEq, Repr, Inhabited

namespace Container

/-- The cursor behind the mark of a container, if the line has it.  A line that ends within the
indentation of an item belongs to the item. -/
def behind? (c : Cursor) : Container → Option Cursor
  | quote => (c.skipColumns 3).2.quoteMarker?
  | list _ _ => some c
  | item indent =>
    let (k, d) := c.skipColumns indent
    if k = indent ∨ atLineEnd d.rest then some d else none

/-- Reads the marks of a chain of containers, from the outermost: the containers that the line does
not belong to, and the cursor behind the marks of the others. -/
def readMarks (c : Cursor) : List Container → List Container × Cursor
  | [] => ([], c)
  | k :: chain =>
    match k.behind? c with
    | some d => readMarks d chain
    | none => (k :: chain, c)

end Container

/-- The containers of a chain that the line at a place does not belong to, and the cursor behind the
marks of the others. -/
def Place.readMarks (p : Place) (chain : List Container) : List Container × Cursor :=
  Container.readMarks (.ofPlace p) chain

/-- The cursor behind the marks of a whole chain, if the line at a place has them all. -/
def Place.behindMarks? (p : Place) (chain : List Container) : Option Cursor :=
  match p.readMarks chain with
  | ([], c) => some c
  | _ => none

/-- The number of characters of the marks that a line begins with. -/
def marksLength (chain : List Container) (line : Text) : Nat :=
  ((Place.ofText line).readMarks chain).2.offset

end Weave.Markdown
