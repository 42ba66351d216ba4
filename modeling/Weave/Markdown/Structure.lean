import Weave.Markdown.LinkDefinition
import Weave.Markdown.Paragraph
import Weave.Markdown.Verbatim

/-!
# Block structure

The block structure of a text is read block by block.  The line that begins a block first closes the
containers that it does not belong to, then opens new ones, and what is left of it begins a leaf.  A
leaf may take further lines.

Two things about lists show only later.  A blank line makes a list loose when another block or item
of the list follows, so it is remembered in `blankBefore`.  An item whose first line is blank ends
at the next blank line, so the end of that first line is remembered in `emptyItem`.
-/

namespace Weave.Markdown

/-- A container with what has been read of it, its latest child first. -/
structure Frame where
  container : Container
  start : Nat
  children : List Block
  deriving Inhabited

namespace Frame

/-- The block of a container that ends at an offset. -/
def close (f : Frame) (stop : Nat) : Block :=
  let range : ByteRange := ⟨f.start, stop⟩
  match f.container with
  | .quote => .quote f.children.reverse range
  | .list marker tight =>
    .list (if marker.isOrdered then some marker.number else none) tight f.children.reverse range
  | .item _ => .item f.children.reverse range

/-- Whether the container is a list. -/
def isList (f : Frame) : Bool :=
  match f.container with
  | .list _ _ => true
  | _ => false

/-- Whether the container is a list without blank lines. -/
def isTightList (f : Frame) : Bool :=
  match f.container with
  | .list _ tight => tight
  | _ => false

/-- Whether the container is an item. -/
def isItem (f : Frame) : Bool :=
  match f.container with
  | .item _ => true
  | _ => false

/-- A list is no longer tight. -/
def loosen (f : Frame) : Frame :=
  match f.container with
  | .list marker _ => { f with container := .list marker false }
  | _ => f

/-- The container with one more child. -/
def add (f : Frame) (b : Block) : Frame := { f with children := b :: f.children }

end Frame

/-- What has been read of a text. -/
structure Structure where
  /-- The open containers, the innermost first. -/
  frames : List Frame
  /-- The blocks outside of containers, the latest first. -/
  blocks : List Block
  /-- The definitions of labels, the first one first. -/
  targets : LinkTargets
  blankBefore : Bool
  emptyItem : Option Nat
  deriving Inhabited

namespace Structure

/-- Nothing has been read. -/
def empty : Structure := ⟨[], [], [], false, none⟩

/-- The open containers from the outermost one. -/
def chain (s : Structure) : List Container := (s.frames.map (·.container)).reverse

/-- Adds a block to the innermost container. -/
def add (s : Structure) (b : Block) : Structure :=
  match s.frames with
  | [] => { s with blocks := b :: s.blocks }
  | f :: frames => { s with frames := f.add b :: frames }

/-- Opens a container. -/
def openFrame (s : Structure) (container : Container) (start : Nat) : Structure :=
  { s with frames := ⟨container, start, []⟩ :: s.frames }

/-- Closes the innermost container at an offset.  Behind a tight list no empty item is open. -/
def closeFrame (s : Structure) (stop : Nat) : Structure :=
  match s.frames with
  | [] => s
  | f :: frames =>
    let emptyItem := if f.isTightList then none else s.emptyItem
    { s with frames, emptyItem }.add (f.close stop)

/-- Closes the `n` innermost containers at an offset. -/
def closeFrames (stop : Nat) : Nat → Structure → Structure
  | 0, s => s
  | n + 1, s => closeFrames stop n (s.closeFrame stop)

/-! ## Lists -/

/-- Closes an item that began with a blank line and has met a second one. -/
def finishEmptyItem (s : Structure) : Structure :=
  match s.emptyItem with
  | none => s
  | some stop =>
    let s := { s with emptyItem := none }
    if s.blankBefore && s.frames.head?.any Frame.isItem then s.closeFrame stop else s

/-- The frames with the list around the innermost one no longer tight. -/
def loosenOuter : List Frame → List Frame
  | f :: g :: frames => f :: g.loosen :: frames
  | frames => frames

/-- Closes a list to which the coming block does not belong, and makes the list around the block
loose if a blank line stands before it. -/
def finishList (s : Structure) (stop : Nat) : Structure :=
  let s := s.finishEmptyItem
  let s := if s.frames.head?.any Frame.isList then s.closeFrame stop else s
  if s.blankBefore then { s with frames := loosenOuter s.frames, blankBefore := false } else s

/-- Opens a list with its first marker. -/
def openList (s : Structure) (marker : ListMarker) (start : Nat) : Structure :=
  { s.openFrame (.list marker true) start with blankBefore := false }

/-- Makes a list of the marker's kind the innermost container: the one that is open, or a new
one. -/
def continueList (s : Structure) (marker : ListMarker) (start : Nat) : Structure :=
  let s := s.finishEmptyItem
  match s.frames with
  | f :: frames =>
    match f.container with
    | .list current _ =>
      if current.mark = marker.mark then
        if s.blankBefore then { s with frames := f.loosen :: frames, blankBefore := false } else s
      else (s.finishList start).openList marker start
    | _ => (s.finishList start).openList marker start
  | [] => (s.finishList start).openList marker start

/-- The lines of an item that begins with a blank line are not indented. -/
def unindentItem (s : Structure) : Structure :=
  match s.frames with
  | f :: frames =>
    if f.isItem && s.emptyItem.isSome then
      { s with frames := { f with container := .item 0 } :: frames }
    else s
  | [] => s

/-- A blank line.  In a quote it has no bearing on lists. -/
def blankLine (s : Structure) : Structure :=
  if s.frames.head?.map (·.container) = some .quote then s
  else { s.unindentItem with blankBefore := true }

/-! ## New containers -/

/-- The containers that a line opens, read up to some place of it. -/
structure Opening where
  read : Structure
  cursor : Cursor
  /-- The place behind the line, if it has ended with the marker of an item. -/
  ended? : Option Place
  deriving Inhabited

/-- Opens the containers whose marks begin at the cursor of a line that starts at an offset; at most
`fuel` of them. -/
def openContainers (lineStart : Nat) : (fuel : Nat) → Structure → Cursor → Opening
  | 0, s, c => ⟨s, c, none⟩
  | fuel + 1, s, c =>
    let (indent, d) := c.skipColumns 4
    if indent = 4 then ⟨s, c, none⟩
    else
      match ListMarker.open? d indent with
      | some (marker, columns, e) =>
        let start := d.offset - indent
        let s := (s.continueList marker start).openFrame (.item columns) start
        match blankLength? e.rest with
        | some length =>
          let next := e.toPlace.advance length
          ⟨{ s with emptyItem := some next.offset }, e, some next⟩
        | none => openContainers lineStart fuel s e
      | none =>
        match d.quoteMarker? with
        | some e =>
          openContainers lineStart fuel ((s.finishList lineStart).openFrame .quote d.offset) e
        | none => ⟨s, c, none⟩

/-! ## Leaves -/

/-- Adds a leaf; the place behind it. -/
def addLeaf (s : Structure) (leaf : Leaf) : Structure × Place := (s.add leaf.block, leaf.next)

/-- Reads the paragraph at a place, behind the definitions that it begins with; at most `fuel` of
them.  The line of the last one starts at an offset. -/
def readDefinitions : (fuel : Nat) → (lineStart : Nat) → Structure → Place → Structure × Place
  | 0, _, s, p => (s, p)
  | fuel + 1, lineStart, s, p =>
    match LinkDefinition.at? s.chain p with
    | none =>
      let s := s.finishList p.offset
      s.addLeaf (paragraph s.chain (fuel + 1) p)
    | some definition =>
      let s := { s with targets := s.targets ++ [(definition.key, definition.target)] }
      let stop := definition.stop
      let next := stop.advance ((blankLength? stop.rest).getD 0)
      let line := next.below s.chain
      if line.ends s.chain then (s.finishList lineStart, next)
      else readDefinitions fuel next.offset s line.cursor.skipBlanks

/-- Reads the leaf that begins at a cursor, behind `indent` columns of indentation, on a line that
starts at an offset. -/
def readLeaf (fuel : Nat) (s : Structure) (c : Cursor) (indent lineStart : Nat) :
    Structure × Place :=
  let finished := s.finishList lineStart
  let chain := finished.chain
  let p := c.toPlace
  if indent = 4 then
    let (leaf, blankBefore) := indentedCode chain fuel c
    { finished with blankBefore }.addLeaf leaf
  else
    match HtmlBlockStart.parse? p.rest with
    | some start => finished.addLeaf (htmlBlock chain fuel indent start p)
    | none =>
      match thematicBreakLength? p.rest with
      | some length => finished.addLeaf ⟨.thematicBreak, p.advance length⟩
      | none =>
        match headingRank? p.rest with
        | some rank => finished.addLeaf (markedHeading chain rank p)
        | none =>
          match FenceOpening.parse? p.rest with
          | some fence => finished.addLeaf (fencedCode chain fuel indent fence p)
          | none => readDefinitions fuel lineStart s p

/-! ## Blocks -/

/-- Reads the block that begins on the line at a place; the place behind it. -/
def readBlock (fuel : Nat) (s : Structure) (p : Place) : Structure × Place :=
  let (missing, c) := p.readMarks s.chain
  let opening := openContainers p.offset fuel (closeFrames p.offset missing.length s) c
  match opening.ended? with
  | some next => (opening.read, next)
  | none =>
    match blankLength? opening.cursor.rest with
    | some length => (opening.read.blankLine, opening.cursor.toPlace.advance length)
    | none =>
      let (indent, d) := opening.cursor.skipColumns 4
      opening.read.readLeaf fuel d indent p.offset

/-- Reads blocks from a place on, at most `fuel` of them. -/
def readBlocks : (fuel : Nat) → Structure → Place → Structure
  | 0, s, _ => s
  | fuel + 1, s, p =>
    if p.rest.isEmpty then s
    else
      let (s, next) := s.readBlock (fuel + 1) p
      readBlocks fuel s next

/-- The block structure of a text.  Every block takes a character, and so does every line of one;
the last round finds nothing left. -/
def ofText (t : Text) : Structure :=
  let s := readBlocks (t.length + 1) empty (.ofText t)
  closeFrames t.byteLength s.frames.length s

end Structure

end Weave.Markdown
