import Weave.Markdown.Heading
import Weave.Markdown.Interruption

/-!
# Verbatim blocks

Blocks of code and HTML keep their lines as they are.  All lines of such a block belong to its
containers.
-/

namespace Weave.Markdown

/-- The line at a place up to its line feed, as it is kept. -/
def Place.verbatim (p : Place) : Text := verbatimLine (throughFeed p.rest)

/-- The place behind the next line feed. -/
def Place.nextLine (p : Place) : Place := p.advance (throughFeed p.rest).length

/-! ## Code -/

/-- A line of an indented code block. -/
structure IndentedLine where
  text : Text
  blank : Bool
  stop : Nat
  deriving Inhabited

/-- The line of an indented code block behind its indentation. -/
def Cursor.indentedLine (c : Cursor) : IndentedLine :=
  ⟨c.padding ++ c.toPlace.verbatim, isBlankLine c.rest, c.toPlace.nextLine.offset⟩

/-- The further lines of an indented code block from a place on, at most `fuel` of them, and the
place behind. -/
def indentedLines (chain : List Container) : (fuel : Nat) → Place → List IndentedLine × Place
  | 0, p => ([], p)
  | fuel + 1, p =>
    match p.behindMarks? chain with
    | none => ([], p)
    | some c =>
      let (indent, d) := c.skipColumns 4
      if (indent = 4 ∨ atLineEnd d.rest) ∧ !d.rest.isEmpty then
        let (lines, next) := indentedLines chain fuel d.toPlace.nextLine
        (d.indentedLine :: lines, next)
      else ([], p)

/-- An indented code block and whether blank lines follow it, which do not belong to its content.
The cursor stands behind the indentation. -/
def indentedCode (chain : List Container) (fuel : Nat) (c : Cursor) : Leaf × Bool :=
  let (more, next) := indentedLines chain fuel c.toPlace.nextLine
  let kept := c.indentedLine :: (more.reverse.dropWhile (·.blank)).reverse
  let stop := (kept.getLast?.map (·.stop)).getD c.offset
  (⟨.code none (kept.flatMap (·.text)) ⟨c.offset, stop⟩, next⟩, more.getLast?.any (·.blank))

/-- The content of a fenced code block from a line on. -/
structure FencedRead where
  text : Text
  /-- The offset at which the block ends. -/
  stop : Nat
  next : Place
  deriving Inhabited

/-- Reads the content of a fenced code block whose opening is indented, at most `fuel` lines. -/
def readFenced (chain : List Container) (indent : Nat) (fence : FenceOpening) :
    (fuel : Nat) → Place → FencedRead
  | 0, p => ⟨[], p.offset, p⟩
  | fuel + 1, p =>
    match p.behindMarks? chain with
    | none => ⟨[], p.offset, p⟩
    | some c =>
      let inner := (c.skipColumns indent).2
      let (more, d) := inner.skipColumns (4 - indent)
      match if more < 4 - indent then fence.closing? d.rest else none with
      | some length =>
        let stop := d.toPlace.advance length
        ⟨[], stop.offset, stop.advance ((blankLength? stop.rest).getD 0)⟩
      | none =>
        let read := readFenced chain indent fence fuel inner.toPlace.nextLine
        { read with text := inner.padding ++ inner.toPlace.verbatim ++ read.text }

/-- A fenced code block at a place, indented by some columns. -/
def fencedCode (chain : List Container) (fuel : Nat) (indent : Nat) (fence : FenceOpening)
    (p : Place) : Leaf :=
  let info := (p.advance fence.length).skipSpaces
  let read := readFenced chain indent fence fuel info.nextLine
  let text := unescape false (Text.trimEndWhile isAnySpace (throughFeed info.rest))
  ⟨.code (some text) read.text ⟨p.offset, read.stop⟩, read.next⟩

/-! ## HTML -/

/-- The lines of a block of HTML from a place on, at most `fuel` of them, and the place behind.  The
first one is indented by some columns, which the text keeps. -/
def htmlLines (chain : List Container) (start : HtmlBlockStart) :
    (fuel : Nat) → (indent : Nat) → Place → Text × Place
  | 0, _, p => ([], p)
  | fuel + 1, indent, p =>
    let text := List.replicate indent ' ' ++ p.verbatim
    let goesOn := fun (c : Cursor) =>
      match start with
      | .upTo closing => !Text.contains (throughFeed p.rest) closing && !c.rest.isEmpty
      | _ => !isBlankLine c.rest
    match (p.nextLine.behindMarks? chain).filter goesOn with
    | none => (text, p.nextLine)
    | some c =>
      let (more, next) := htmlLines chain start fuel c.pending c.toPlace
      (text ++ more, next)

/-- A block of HTML at a place, indented by some columns. -/
def htmlBlock (chain : List Container) (fuel : Nat) (indent : Nat) (start : HtmlBlockStart)
    (p : Place) : Leaf :=
  let (text, next) := htmlLines chain start fuel indent p
  ⟨.html text ⟨p.offset, next.offset⟩, next⟩

end Weave.Markdown
