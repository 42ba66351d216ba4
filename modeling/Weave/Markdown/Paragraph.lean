import Weave.Markdown.Heading
import Weave.Markdown.Interruption

/-!
# Paragraphs

A paragraph takes lines until one ends it; a line below may take part without the marks of its
containers.  An underline makes a heading of the paragraph.  Where the first two lines are the
header of a table, the rows below belong to it.
-/

namespace Weave.Markdown

/-! ## Lines of a paragraph -/

/-- The lines of a paragraph. -/
structure ParagraphRead where
  tokens : List Token
  /-- The ending of the last line, if a backslash stands in front. -/
  backslash : Option Token
  /-- The rank of the heading that an underline makes of the paragraph. -/
  underline : Option Nat
  next : Place
  deriving Inhabited

/-- The ending of a line, if a backslash stands in front. -/
def backslashBreak? (break? : Option Token) : Option Token :=
  break?.filter (·.kind == .hardBreak true)

/-- Reads the lines of a paragraph from a place on, at most `fuel` of them. -/
def readParagraph (chain : List Container) : (fuel : Nat) → Place → ParagraphRead
  | 0, p => ⟨[], none, none, p⟩
  | fuel + 1, p =>
    let line := readLine false p []
    let below := line.next.below chain
    let content := below.cursor.skipBlanks
    match if below.belongs then below.underline? else none with
    | some (rank, length) =>
      ⟨line.tokens, backslashBreak? line.break?, some rank,
        below.cursor.toPlace.advance length⟩
    | none =>
      if below.ends chain || atLineEnd content.rest then
        ⟨line.tokens, backslashBreak? line.break?, none, line.next⟩
      else
        let more := readParagraph chain fuel content
        { more with tokens := line.tokens ++ line.break?.toList ++ more.tokens }

/-! ## Tables -/

/-- The cells of a row from a place on, at most `fuel` of them, and the place behind the row.  A bar
at the start opens the row, and nothing stands behind a bar at the end. -/
def readCells (chain : List Container) : (fuel : Nat) → Place → List Content × Place
  | 0, p => ([], p)
  | fuel + 1, p =>
    let start := (if p.rest.head? = some '|' then p.advance 1 else p).skipSpaces
    match endingLength? start.rest with
    | some ending => ([], start.advance ending)
    | none =>
      let line := readLine true start []
      let (cells, next) := readCells chain fuel line.next
      (.between chain true start line.next.offset line.tokens :: cells, next)

/-- The cells of a row with `columns` columns; missing cells are empty, and further ones are
dropped. -/
def fitRow (columns : Nat) (cells : List Content) : List Content :=
  cells.take columns ++ List.replicate (columns - cells.length) .empty

/-- The rows of a table's body from a place on, at most `fuel` of them, and the place behind. -/
def readRows (chain : List Container) : (fuel : Nat) → Place → List (List Content) × Place
  | 0, p => ([], p)
  | fuel + 1, p =>
    match (p.behindMarks? chain).map Cursor.skipBlanks with
    | none => ([], p)
    | some start =>
      if beginsBlock true start.rest then ([], p)
      else
        match readCells chain fuel start with
        | ([], _) => ([], p)
        | (cells, next) =>
          let (rows, stop) := readRows chain fuel next
          (cells :: rows, stop)

/-- A table whose header begins at a place, and whose body begins at `body`. -/
def readTable (chain : List Container) (fuel : Nat) (p : Place) (alignments : List Alignment)
    (body : Place) : Leaf :=
  let fit := fitRow alignments.length
  let (rows, next) := readRows chain fuel body
  ⟨.table alignments (fit (readCells chain fuel p).1) (rows.map fit) ⟨p.offset, next.offset⟩, next⟩

/-! ## Blocks -/

/-- Whether a line ends with a backslash that guards nothing. -/
def endsInBackslash (line : Text) : Bool :=
  (line.reverse.takeWhile (· == '\\')).length % 2 == 1

/-- The paragraph that begins at a place, or the heading or table that it turns out to be. -/
def paragraph (chain : List Container) (fuel : Nat) (p : Place) : Leaf :=
  match if endsInBackslash (lineText p.rest) then none else tableHeader? chain p with
  | some (alignments, body) => readTable chain fuel p alignments body
  | none =>
    let read := readParagraph chain fuel p
    match read.underline with
    | some rank => underlinedHeading chain rank p read.tokens read.backslash read.next
    | none =>
      let tail : List Token :=
        read.backslash.toList.map fun k => ⟨.text false, k.start, k.start + 1⟩
      ⟨.paragraph (.between chain false p read.next.offset (read.tokens ++ tail))
        ⟨p.offset, read.next.offset⟩, read.next⟩

end Weave.Markdown
