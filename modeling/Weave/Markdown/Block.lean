import Weave.Document.Node
import Weave.Markdown.Token

/-!
# Blocks

The block structure of a markdown text.  Blocks hold their text as tokens, of which no inline
constructs have been made yet, and the byte range of the source that they take up.
-/

namespace Weave.Markdown

/-- A block of a markdown text.  The items of a list are blocks of their own. -/
inductive Block where
  | paragraph (content : Content) (range : ByteRange)
  | heading (rank : Nat) (id : Option Text) (content : Content) (range : ByteRange)
  /-- A code block; the info is absent for an indented one. -/
  | code (info : Option Text) (content : Text) (range : ByteRange)
  | html (content : Text) (range : ByteRange)
  | thematicBreak
  | table (alignments : List Alignment) (header : List Content) (rows : List (List Content))
      (range : ByteRange)
  | quote (children : List Block) (range : ByteRange)
  /-- A list; ordered lists carry the number of their first marker.  The paragraphs directly in the
  items of a tight list are shown as bare text. -/
  | list (number : Option Nat) (tight : Bool) (items : List Block) (range : ByteRange)
  | item (children : List Block) (range : ByteRange)
  deriving Repr, Inhabited

end Weave.Markdown
