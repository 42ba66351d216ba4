import Weave.Span
import Weave.Text.Alphanumeric
import Weave.Text.Lines
import Weave.Text.Space

/-!
# Definitions by indentation

The definitions of a source file are found by its lines, without a grammar.  A definition starts
at its keyword line and the decorators directly above it, and runs to the next line at the same or
a smaller indentation that starts a definition or a decorator.  Statements between definitions stay
with the definition before them.

`locateSymbol?` finds `name` or `Class.method`; a method is searched only in the body of its class,
at any depth.
-/

namespace Weave

/-- What a definition line defines. -/
inductive Keyword where
  | function
  | «class»
  deriving DecidableEq, Repr, Inhabited

namespace Definition

/-- The text after one or more white space characters. -/
def afterSpaces? (t : Text) : Option Text :=
  match t with
  | c :: _ => if Text.isSpace c then some t.trimStart else none
  | [] => none

/-- The longest name at the start of a text. -/
def name? (t : Text) : Option Text :=
  match t with
  | c :: _ => if Text.isNameStart c then some (t.takeWhile Text.isNameChar) else none
  | [] => none

/-- What follows the keyword of a definition line, with the kind of the definition. -/
def keyword? (t : Text) : Option (Keyword × Text) :=
  match Text.dropPrefix? "async" t with
  | some rest => do
    let rest ← Text.dropPrefix? "def" (← afterSpaces? rest)
    return (.function, rest)
  | none =>
    match Text.dropPrefix? "def" t with
    | some rest => some (.function, rest)
    | none => (Text.dropPrefix? "class" t).map ((.«class», ·))

/-- The kind and the name of a line that starts a definition: `def`, `async def` or `class`, white
space, and a name. -/
def parse? (t : Text) : Option (Keyword × Text) := do
  let (keyword, rest) ← keyword? t
  let name ← name? (← afterSpaces? rest)
  return (keyword, name)

end Definition

/-- The number of leading spaces and tabs. -/
def indentOf (line : Text) : Nat := (line.takeWhile Text.isBlank).length

/-- Whether a line without its indentation starts a decorator or a definition. -/
def startsBlock (t : Text) : Bool := t.startsWith "@" || (Definition.parse? t).isSome

/-- A half-open range of line numbers. -/
structure LineRange where
  start : Nat
  stop : Nat
  deriving DecidableEq, Repr, Inhabited

/-- The line numbers of a range, in order. -/
def LineRange.toList (r : LineRange) : List Nat := List.range' r.start (r.stop - r.start)

/-- The lines of a source file with their terminators, addressed by number. -/
structure LineTable where
  lines : List Text
  deriving DecidableEq, Repr, Inhabited

namespace LineTable

/-- The lines of a source. -/
def ofSource (source : Text) : LineTable := ⟨source.chunks⟩

/-- The number of lines. -/
def size (table : LineTable) : Nat := table.lines.length

/-- The line with this number; empty past the end. -/
def line (table : LineTable) (n : Nat) : Text := table.lines.getD n []

/-- All lines. -/
def all (table : LineTable) : LineRange := ⟨0, table.size⟩

/-- The byte offset at which a line starts; past the end, that of the end. -/
def offset (table : LineTable) (n : Nat) : Nat :=
  Text.byteLength (table.lines.take n).flatten

/-- The byte span of a range of lines. -/
def span (table : LineTable) (r : LineRange) : Span :=
  Span.covering (table.offset r.start) (table.offset r.stop)

/-- The text of a range of lines. -/
def text (table : LineTable) (r : LineRange) : Text :=
  ((table.lines.take r.stop).drop r.start).flatten

end LineTable

/-- The lines of one definition: the first line with decorators, the line of the keyword, and one
past the last line. -/
structure Block where
  first : Nat
  keyword : Nat
  stop : Nat
  deriving DecidableEq, Repr, Inhabited

namespace Block

/-- All lines of the definition. -/
def lines (b : Block) : LineRange := ⟨b.first, b.stop⟩

/-- The lines below the keyword. -/
def body (b : Block) : LineRange := ⟨b.keyword + 1, b.stop⟩

end Block

/-- Whether a line ends a definition of the given indentation. -/
def endsBlock (indent : Nat) (line : Text) : Bool :=
  !line.isAllSpace && indentOf line ≤ indent && startsBlock line.trimStart

/-- The number of the first decorator line in an unbroken run of them at this indentation that ends
just above line `n`, not going above `limit`. -/
def firstDecorator (table : LineTable) (indent limit : Nat) : Nat → Nat
  | 0 => 0
  | n + 1 =>
    let line := table.line n
    if limit < n + 1 ∧ line.trimStart.startsWith "@" ∧ indentOf line = indent then
      firstDecorator table indent limit n
    else n + 1

/-- The definition whose keyword stands on the given line, within a range of lines. -/
def blockAt (table : LineTable) (keyword : Nat) (within : LineRange) : Block :=
  let indent := indentOf (table.line keyword)
  let below : LineRange := ⟨keyword + 1, within.stop⟩
  { first := firstDecorator table indent within.start keyword
    keyword
    stop := (below.toList.find? fun n => endsBlock indent (table.line n)).getD within.stop }

/-- Whether a line defines `name`. -/
def defines (name : Text) (classesOnly : Bool) (line : Text) : Bool :=
  match Definition.parse? line.trimStart with
  | some (keyword, found) => found == name && (!classesOnly || keyword == .«class»)
  | none => false

/-- The first definition of `name` within a range of lines. -/
def findBlock? (table : LineTable) (within : LineRange) (name : Text) (classesOnly : Bool) :
    Option Block :=
  (within.toList.find? fun n => defines name classesOnly (table.line n)).map fun keyword =>
    blockAt table keyword within

/-- The definition of `name` or `Class.method`. -/
def locateBlock? (table : LineTable) (qualifiedName : Text) : Option Block :=
  match Text.splitFirst? "." qualifiedName with
  | some (owner, method) => do
    let block ← findBlock? table table.all owner true
    findBlock? table block.body method false
  | none => findBlock? table table.all qualifiedName false

/-- The byte span of the definition of `name` or `Class.method`. -/
def locateSymbol? (source qualifiedName : Text) : Option Span :=
  let table := LineTable.ofSource source
  (locateBlock? table qualifiedName).map fun block => table.span block.lines

end Weave
