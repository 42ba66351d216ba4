import Weave.Markdown.Collect
import Weave.Markdown.InlineText
import Weave.Markdown.Structure

/-!
# Reading markdown

A markdown text is read in three steps: its block structure, the inline content of every
block with all definitions of labels at hand, and the nodes of the document.
-/

namespace Weave.Markdown

/-- The events of a row of cells. -/
def cellEvents (targets : LinkTargets) (range : ByteRange) :
    List Content → StateM Nat (List Event)
  | [] => return []
  | cell :: cells => do
    let first ← inlineEvents targets range cell
    let others ← cellEvents targets range cells
    return Nesting.wrap .tableCell range first ++ others

/-- The events of some rows of cells. -/
def rowEvents (targets : LinkTargets) (range : ByteRange) :
    List (List Content) → StateM Nat (List Event)
  | [] => return []
  | row :: rows => do
    let first ← cellEvents targets range row
    let others ← rowEvents targets range rows
    return Nesting.wrap .tableRow range first ++ others

mutual

/-- The events of a block; `bare` says that it stands in an item of a tight list. -/
def Block.events (targets : LinkTargets) (bare : Bool) : Block → StateM Nat (List Event)
  | .paragraph content range => do
    let events ← inlineEvents targets range content
    return if bare then events else Nesting.wrap .paragraph range events
  | .heading rank id content range => do
    let events ← inlineEvents targets range content
    return Nesting.wrap (.heading rank id) range events
  | .code info content range => return Nesting.wrap (.codeBlock info) range [.text content]
  | .html content range => return Nesting.wrap .htmlBlock range [.html content]
  | .thematicBreak => return [.rule]
  | .table alignments header rows range => do
    let first ← cellEvents targets range header
    let others ← rowEvents targets range rows
    return Nesting.wrap (.table alignments) range (Nesting.wrap .tableHead range first ++ others)
  | .quote children range => do
    let events ← allEvents targets false children
    return Nesting.wrap .blockquote range events
  | .list number tight items range => do
    let events ← allEvents targets tight items
    return Nesting.wrap (.list number) range events
  | .item children range => do
    let events ← allEvents targets bare children
    return Nesting.wrap .item range events

/-- The events of some blocks. -/
def allEvents (targets : LinkTargets) (bare : Bool) : List Block → StateM Nat (List Event)
  | [] => return []
  | b :: bs => do
    let first ← b.events targets bare
    let others ← allEvents targets bare bs
    return first ++ others

end

/-- The number of bytes that the targets of labels may take up in any text; in a longer text it is
the length of the text. -/
def leastAllowance : Nat := 100000

/-- The events of a markdown text. -/
def eventsOf (t : Text) : List Event :=
  let s := Structure.ofText t
  ((allEvents s.targets false s.blocks.reverse).run (max t.byteLength leastAllowance)).1

/-- The document of a markdown text, and the warnings about its item tags. -/
def read (t : Text) : Document × List UnknownVariant := documentOf t (eventsOf t)

end Weave.Markdown
