import Weave.Markdown.Collect

/-!
# Event streams of documents

`BlockEvents nodes events` says that `events` is an event stream of `nodes`: every node stands
between its own start and end events, and a text is cut into one or more events.  A document has
many streams, as the cuts and the ranges that documents do not keep are free.  Components have
none, and an item has one only without a variant, since a variant is written as a tag in the text
of the item.

`writableAll` collects what a document must look like to be read back from its streams.  No run
has two texts beside each other, as they would be joined.  No item ends its first line with a tag,
as that would be taken off, and no item of an ordered list has a decimal marker behind a line
break, as it would be split there.
-/

namespace Weave

/-! ## Documents that streams can carry -/

/-- Whether an element is a text. -/
def Inline.isText : Inline → Bool
  | text _ => true
  | _ => false

mutual

/-- Whether no run inside an element has two texts beside each other. -/
def Inline.isSeparated : Inline → Bool
  | .strong content => separated content
  | .emphasis content => separated content
  | .strikethrough content => separated content
  | .link _ _ content => separated content
  | .image _ _ alt => separated alt
  | _ => true

/-- Whether a run has no two texts beside each other, at any depth. -/
def separated : List Inline → Bool
  | [] => true
  | x :: xs => x.isSeparated && !(x.isText && xs.head?.any Inline.isText) && separated xs

end

/-- Whether a soft break of a run is followed by a decimal marker. -/
def hasDecimalBreak : List Inline → Bool
  | [] => false
  | .softBreak :: rest => (lineMarker? rest).isSome || hasDecimalBreak rest
  | _ :: rest => hasDecimalBreak rest

/-- Whether an item with these children is read as one item without a variant: its first paragraph
has no tag, and no decimal break if the list is ordered. -/
def isPlainItem (ordered : Bool) : List Node → Bool
  | .paragraph content :: _ =>
    (ItemTag.take content).1.isNone && !(ordered && hasDecimalBreak content)
  | _ => true

mutual

/-- Whether a node can be read back from its events. -/
def Node.isWritable : Node → Bool
  | .paragraph content => separated content
  | .heading h => separated h.content
  | .codeBlock _ => true
  | .list ⟨ordered, _, items, _⟩ => writableItems ordered items
  | .blockquote children => writableAll children
  | .table _ headers rows => headers.all separated && rows.all (·.all separated)
  | .html _ => true
  | .horizontalRule => true
  | .component _ => false

/-- Whether some nodes can be read back from their events. -/
def writableAll : List Node → Bool
  | [] => true
  | n :: ns => n.isWritable && writableAll ns

/-- Whether the items of a list can be read back from their events. -/
def writableItems (ordered : Bool) : List ListItem → Bool
  | [] => true
  | ⟨children, _, _⟩ :: items =>
    writableAll children && isPlainItem ordered children && writableItems ordered items

end

/-! ## Streams -/

namespace Markdown

/-- The text that an event adds to an inline run. -/
def Event.inlinePiece? : Event → Option Text
  | text s => some s
  | inlineHtml s => some s
  | _ => none

/-- The text that an event adds to a code or HTML block. -/
def Event.blockPiece? : Event → Option Text
  | text s => some s
  | html s => some s
  | _ => none

/-- `Cut piece? t events`: the events carry the pieces of `t`, in order. -/
inductive Cut (piece? : Event → Option Text) : Text → List Event → Prop where
  | nil : Cut piece? [] []
  | cons {e : Event} {s t : Text} {es : List Event} (piece : piece? e = some s)
      (later : Cut piece? t es) : Cut piece? (s ++ t) (e :: es)

/-- The tag and the content of an element that stands between a start and an end event. -/
def spanned? : Inline → Option (Tag × List Inline)
  | .strong content => some (.strong, content)
  | .emphasis content => some (.emphasis, content)
  | .strikethrough content => some (.strikethrough, content)
  | .link dest title content => some (.link dest title, content)
  | .image dest title alt => some (.image dest title, alt)
  | _ => none

/-- `RunEvents run events`: the events of an inline run. -/
inductive RunEvents : List Inline → List Event → Prop where
  | nil : RunEvents [] []
  | text {t : Text} {es fs : List Event} {run : List Inline} (ne : es ≠ [])
      (cut : Cut Event.inlinePiece? t es) (later : RunEvents run fs) :
      RunEvents (.text t :: run) (es ++ fs)
  | codeSpan {code : Text} {fs : List Event} {run : List Inline} (later : RunEvents run fs) :
      RunEvents (.codeSpan code :: run) (.code code :: fs)
  | softBreak {fs : List Event} {run : List Inline} (later : RunEvents run fs) :
      RunEvents (.softBreak :: run) (.softBreak :: fs)
  | hardBreak {fs : List Event} {run : List Inline} (later : RunEvents run fs) :
      RunEvents (.hardBreak :: run) (.hardBreak :: fs)
  | span {x : Inline} {tag : Tag} {range : ByteRange} {content run : List Inline}
      {es fs : List Event} (spanned : spanned? x = some (tag, content))
      (inside : RunEvents content es) (later : RunEvents run fs) :
      RunEvents (x :: run) (.start tag range :: (es ++ .stop tag.kind :: fs))

/-- `CellEvents cells events`: the events of the cells of a table row. -/
inductive CellEvents : List (List Inline) → List Event → Prop where
  | nil : CellEvents [] []
  | cons {cell : List Inline} {cells : List (List Inline)} {range : ByteRange}
      {es fs : List Event} (inside : RunEvents cell es) (later : CellEvents cells fs) :
      CellEvents (cell :: cells) (.start .tableCell range :: (es ++ .stop .tableCell :: fs))

/-- `RowEvents rows events`: the events of the rows of a table below its head. -/
inductive RowEvents : List (List (List Inline)) → List Event → Prop where
  | nil : RowEvents [] []
  | cons {row : List (List Inline)} {rows : List (List (List Inline))} {range : ByteRange}
      {es fs : List Event} (inside : CellEvents row es) (later : RowEvents rows fs) :
      RowEvents (row :: rows) (.start .tableRow range :: (es ++ .stop .tableRow :: fs))

mutual

/-- `BlockEvents nodes events`: the events of some nodes.  The ranges of the start events are the
spans of the headings, code blocks, lists and items. -/
inductive BlockEvents : List Node → List Event → Prop where
  | nil : BlockEvents [] []
  | paragraph {content : List Inline} {range : ByteRange} {ns : List Node} {es fs : List Event}
      (inside : RunEvents content es) (later : BlockEvents ns fs) :
      BlockEvents (.paragraph content :: ns)
        (.start .paragraph range :: (es ++ .stop .paragraph :: fs))
  | heading {h : Heading} {ns : List Node} {es fs : List Event}
      (inside : RunEvents h.content es) (later : BlockEvents ns fs) :
      BlockEvents (.heading h :: ns)
        (.start (.heading h.level h.id) h.span :: (es ++ .stop .heading :: fs))
  /-- A fenced code block with the language and the entries of its info string. -/
  | fencedCode {info content : Text} {span : ByteRange} {ns : List Node} {es fs : List Event}
      (inside : Cut Event.blockPiece? content es) (later : BlockEvents ns fs) :
      BlockEvents
        (.codeBlock ⟨(InfoString.parse info).1, (InfoString.parse info).2, content, span⟩ :: ns)
        (.start (.codeBlock (some info)) span :: (es ++ .stop .codeBlock :: fs))
  /-- An indented code block, which has no info string. -/
  | indentedCode {content : Text} {span : ByteRange} {ns : List Node} {es fs : List Event}
      (inside : Cut Event.blockPiece? content es) (later : BlockEvents ns fs) :
      BlockEvents (.codeBlock ⟨none, [], content, span⟩ :: ns)
        (.start (.codeBlock none) span :: (es ++ .stop .codeBlock :: fs))
  /-- A list is ordered exactly if its start event carries a number. -/
  | list {number : Option Nat} {items : List ListItem} {span : ByteRange} {ns : List Node}
      {es fs : List Event} (inside : ItemEvents items es) (later : BlockEvents ns fs) :
      BlockEvents (.list ⟨number.isSome, number, items, span⟩ :: ns)
        (.start (.list number) span :: (es ++ .stop .list :: fs))
  | blockquote {children : List Node} {range : ByteRange} {ns : List Node} {es fs : List Event}
      (inside : BlockEvents children es) (later : BlockEvents ns fs) :
      BlockEvents (.blockquote children :: ns)
        (.start .blockquote range :: (es ++ .stop .blockquote :: fs))
  | table {alignments : List Alignment} {headers : List (List Inline)}
      {rows : List (List (List Inline))} {range headRange : ByteRange} {ns : List Node}
      {hs rs fs : List Event} (head : CellEvents headers hs) (body : RowEvents rows rs)
      (later : BlockEvents ns fs) :
      BlockEvents (.table alignments headers rows :: ns)
        (.start (.table alignments) range :: .start .tableHead headRange ::
          (hs ++ .stop .tableHead :: (rs ++ .stop .table :: fs)))
  | html {html : Text} {range : ByteRange} {ns : List Node} {es fs : List Event}
      (inside : Cut Event.blockPiece? html es) (later : BlockEvents ns fs) :
      BlockEvents (.html html :: ns)
        (.start .htmlBlock range :: (es ++ .stop .htmlBlock :: fs))
  | rule {ns : List Node} {fs : List Event} (later : BlockEvents ns fs) :
      BlockEvents (.horizontalRule :: ns) (.rule :: fs)

/-- `ItemEvents items events`: the events of the items of a list. -/
inductive ItemEvents : List ListItem → List Event → Prop where
  | nil : ItemEvents [] []
  | cons {children : List Node} {span : ByteRange} {items : List ListItem} {es fs : List Event}
      (inside : BlockEvents children es) (later : ItemEvents items fs) :
      ItemEvents (⟨children, none, span⟩ :: items)
        (.start .item span :: (es ++ .stop .item :: fs))

end

end Markdown

end Weave
