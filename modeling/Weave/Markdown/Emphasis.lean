import Weave.Markdown.Delimiter
import Weave.Markdown.Event

/-!
# Emphasis

A closing run of delimiter marks takes the innermost opening run that fits, as many marks of it as
both have left; the runs that were opened in between are plain text.  A run of tildes that closes
nothing bars the runs before it from all later tildes.
-/

namespace Weave.Markdown

/-- A piece of inline content: events that are settled, a run of marks with its text, or a line
ending with a backslash in front. -/
inductive Piece where
  | settled (events : List Event)
  | run (run : DelimiterRun) (text : Text)
  | backslashBreak
  deriving Repr, Inhabited

/-- Whether a piece is a run of marks. -/
def Piece.isRun : Piece → Bool
  | run _ _ => true
  | _ => false

/-- An opening run, the number of its marks that are not used, and what has been read after it. -/
structure OpenRun where
  run : DelimiterRun
  left : Nat
  after : List Event
  deriving Repr, Inhabited

namespace OpenRun

/-- Whether a closing run fits an opening one.  Tildes fit in equal number.  Where one of the runs
could do both, the sum of their lengths is no multiple of three, unless both lengths are. -/
def fits (o : OpenRun) (closing : DelimiterRun) : Bool :=
  o.run.mark == closing.mark && (closing.mark != '~' || o.run.length == closing.length)
    && (!closing.isBoth && !o.run.isBoth || (closing.length + o.run.length) % 3 != 0
      || closing.length % 3 == 0)

/-- The marks that are left as text, and what stands after them. -/
def plain (o : OpenRun) : List Event :=
  .text (List.replicate o.left o.run.mark) :: o.after

end OpenRun

/-- Content whose emphasis is being settled. -/
structure Nesting where
  /-- What stands before all open runs. -/
  before : List Event
  /-- The open runs, the innermost first. -/
  runs : List OpenRun
  /-- The number of the outermost runs that are barred from tildes. -/
  barred : Nat
  deriving Repr, Inhabited

namespace Nesting

/-- Nothing has been read. -/
def empty : Nesting := ⟨[], [], 0⟩

/-- Adds events at the end. -/
def add (n : Nesting) (events : List Event) : Nesting :=
  match n.runs with
  | [] => { n with before := n.before ++ events }
  | o :: runs => { n with runs := { o with after := o.after ++ events } :: runs }

/-- Some open runs, the innermost first, as plain text. -/
def plainRuns (runs : List OpenRun) : List Event := runs.reverse.flatMap OpenRun.plain

/-- All content, with the open runs as plain text. -/
def events (n : Nesting) : List Event := n.before ++ plainRuns n.runs

/-- Events as the content of a span. -/
def wrap (tag : Tag) (range : ByteRange) (events : List Event) : List Event :=
  .start tag range :: events ++ [.stop tag.kind]

/-- The emphasis that some marks on either side make of events: strong for each two of them, and
an outer emphasis for one more. -/
def emphasize (range : ByteRange) : Nat → List Event → List Event
  | 0, events => events
  | 1, events => wrap .emphasis range events
  | n + 2, events => emphasize range n (wrap .strong range events)

/-- The span that some marks on either side make of events. -/
def mark (range : ByteRange) (mark : Char) (count : Nat) (events : List Event) : List Event :=
  if mark = '~' then wrap .strikethrough range events else emphasize range count events

/-- The runs around the innermost one that fits a closing run: those inside of it, the run itself,
and those outside. -/
def splitRuns? (closing : DelimiterRun) (n : Nesting) :
    Option (List OpenRun × OpenRun × List OpenRun) :=
  let reach := n.runs.length - (if closing.mark = '~' then n.barred else 0)
  let inside := (n.runs.take reach).takeWhile (!·.fits closing)
  if inside.length = reach then none
  else
    match n.runs.drop inside.length with
    | o :: outer => some (inside, o, outer)
    | [] => none

/-- Closes open runs by the marks of a closing run, of which `count` are left; the number of marks
that remain.  Each round uses a mark, so that as many rounds as marks suffice. -/
def closeRuns (range : ByteRange) (closing : DelimiterRun) :
    (rounds : Nat) → (count : Nat) → Nesting → Nat × Nesting
  | 0, count, n => (count, n)
  | rounds + 1, count, n =>
    match n.splitRuns? closing with
    | none =>
      (count, if closing.mark = '~' then { n with barred := n.runs.length } else n)
    | some (inside, o, outer) =>
      let used := min count o.left
      let span := mark range closing.mark used (o.after ++ plainRuns inside)
      let barred := min n.barred outer.length
      let n :=
        if used < o.left then
          ⟨n.before, { o with left := o.left - used, after := span } :: outer, barred⟩
        else (Nesting.mk n.before outer barred).add span
      if count - used = 0 then (0, n) else closeRuns range closing rounds (count - used) n

/-- Reads a run of marks, whose text may go on behind the marks. -/
def addRun (range : ByteRange) (n : Nesting) (r : DelimiterRun) (text : Text) : Nesting :=
  let (count, n) := if r.canClose then closeRuns range r r.length r.length n else (r.length, n)
  if count = 0 then n
  else if r.canOpen then { n with runs := ⟨r, count, []⟩ :: n.runs }
  else n.add [.text (text.drop (r.length - count))]

/-- Reads a piece. -/
def addPiece (range : ByteRange) (n : Nesting) (p : Piece) : Nesting :=
  match p with
  | .settled events => n.add events
  | .run r text => n.addRun range r text
  | .backslashBreak => n.add [.hardBreak]

end Nesting

/-- Some pieces with a backslash as text in place of a line ending at their end. -/
def keepBackslash (pieces : List Piece) : List Piece :=
  match pieces.reverse with
  | .backslashBreak :: before => (.settled [.text ['\\']] :: before).reverse
  | _ => pieces

/-- The events of some pieces, with their emphasis settled.  In `active` content a line ending at
the end leaves its backslash as text. -/
def settle (range : ByteRange) (active : Bool) (pieces : List Piece) : List Event :=
  let pieces := if active then keepBackslash pieces else pieces
  (pieces.foldl (Nesting.addPiece range) .empty).events

end Weave.Markdown
