import Weave.Document.Node

/-!
# Markdown events

A markdown text is read as a stream of events: starts and ends of blocks and inline spans, and the
text, code and breaks between them.  Every start carries the byte range of what it opens.  An end
names only the kind of what it closes.

The kinds are those of the event format, also the ones for which documents have no node: footnotes,
definition lists, containers, metadata, mathematics, raised and lowered text, and task boxes.  The
reader of markdown does not make them, and the collectors pass over them.
-/

namespace Weave.Markdown

/-- What a start event opens. -/
inductive Tag where
  | paragraph
  | heading (level : Nat) (id : Option Text)
  | blockquote
  /-- A code block; the info string is absent for an indented one. -/
  | codeBlock (info : Option Text)
  /-- A list; the number of its first marker is absent for an unordered one. -/
  | list (number : Option Nat)
  | item
  | table (alignments : List Alignment)
  | tableHead
  | tableRow
  | tableCell
  | htmlBlock
  | emphasis
  | strong
  | strikethrough
  | link (dest title : Text)
  | image (dest title : Text)
  | containerBlock
  | footnoteDefinition (label : Text)
  | definitionList
  | definitionListTitle
  | definitionListDefinition
  | superscript
  | subscript
  | metadataBlock
  deriving DecidableEq, Repr, Inhabited

/-- The kinds of tags, by which an end event is matched. -/
inductive TagKind where
  | paragraph
  | heading
  | blockquote
  | codeBlock
  | list
  | item
  | table
  | tableHead
  | tableRow
  | tableCell
  | htmlBlock
  | emphasis
  | strong
  | strikethrough
  | link
  | image
  | containerBlock
  | footnoteDefinition
  | definitionList
  | definitionListTitle
  | definitionListDefinition
  | superscript
  | subscript
  | metadataBlock
  deriving DecidableEq, Repr, Inhabited

/-- The kind of a tag. -/
def Tag.kind : Tag → TagKind
  | paragraph => .paragraph
  | heading _ _ => .heading
  | blockquote => .blockquote
  | codeBlock _ => .codeBlock
  | list _ => .list
  | item => .item
  | table _ => .table
  | tableHead => .tableHead
  | tableRow => .tableRow
  | tableCell => .tableCell
  | htmlBlock => .htmlBlock
  | emphasis => .emphasis
  | strong => .strong
  | strikethrough => .strikethrough
  | link _ _ => .link
  | image _ _ => .image
  | containerBlock => .containerBlock
  | footnoteDefinition _ => .footnoteDefinition
  | definitionList => .definitionList
  | definitionListTitle => .definitionListTitle
  | definitionListDefinition => .definitionListDefinition
  | superscript => .superscript
  | subscript => .subscript
  | metadataBlock => .metadataBlock

/-- Whether the tag opens a span that documents show inside a line.  All others are taken for the
starts of blocks. -/
def Tag.isInline : Tag → Bool
  | emphasis => true
  | strong => true
  | strikethrough => true
  | link _ _ => true
  | image _ _ => true
  | _ => false

/-- An event of a markdown text. -/
inductive Event where
  | start (tag : Tag) (range : ByteRange)
  | stop (kind : TagKind)
  | text (text : Text)
  | code (text : Text)
  | html (text : Text)
  | inlineHtml (text : Text)
  | softBreak
  | hardBreak
  | rule
  | inlineMath (text : Text)
  | displayMath (text : Text)
  | footnoteReference (label : Text)
  /-- The box of a task list item. -/
  | taskMarker
  deriving DecidableEq, Repr, Inhabited

/-- Whether an inline run may begin with the event. -/
def Event.startsInline : Event → Bool
  | start tag _ => tag.isInline
  | text _ => true
  | code _ => true
  | inlineHtml _ => true
  | softBreak => true
  | hardBreak => true
  | _ => false

end Weave.Markdown
