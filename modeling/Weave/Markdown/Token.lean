import Weave.Markdown.CharacterReference
import Weave.Markdown.Container
import Weave.Markdown.Delimiter

/-!
# Tokens

The text of a block is read line by line into tokens.  A token is a stretch of the source that may
take part in an inline construct; what is made of it shows only when the whole block is there.
White space at the end of a line and the backslash of an escape belong to no token.
-/

namespace Weave.Markdown

/-- What a token may be. -/
inductive TokenKind where
  /-- Plain text; `escaped` says that a backslash guards its first character. -/
  | text (escaped : Bool)
  /-- A text that differs from the source. -/
  | fixed (t : Text)
  | marks (run : DelimiterRun)
  /-- A run of backticks; a backslash may guard its first one. -/
  | backticks (length : Nat) (guarded : Bool)
  | angle
  | opening (image : Bool)
  /-- A closing bracket; `alone` says that the brackets may be a reference by themselves. -/
  | closing (alone : Bool)
  | softBreak
  | hardBreak (backslash : Bool)
  deriving DecidableEq, Repr, Inhabited

namespace TokenKind

/-- Whether a construct may begin with the token. -/
def isActive : TokenKind → Bool
  | marks _ => true
  | backticks _ _ => true
  | angle => true
  | opening _ => true
  | closing _ => true
  | _ => false

end TokenKind

/-- A token between two offsets of the source. -/
structure Token where
  kind : TokenKind
  start : Nat
  stop : Nat
  deriving DecidableEq, Repr, Inhabited

/-- The inline content of a block before its constructs are read. -/
structure Content where
  /-- The offset at which the text begins. -/
  start : Nat
  /-- The source up to the end of the block. -/
  text : Text
  tokens : List Token
  /-- The containers around the block. -/
  chain : List Container
  /-- Whether the content is a cell of a table. -/
  inTable : Bool
  deriving Repr, Inhabited

namespace Content

/-- No content. -/
def empty : Content := ⟨0, [], [], [], false⟩

/-- The content with some tokens of the source from a place up to an offset. -/
def between (chain : List Container) (inTable : Bool) (p : Place) (stop : Nat)
    (tokens : List Token) : Content :=
  ⟨p.offset, p.textTo stop, tokens, chain, inTable⟩

end Content

/-! ## Reading a line -/

/-- A line that has been read into tokens. -/
structure LineRead where
  tokens : List Token
  /-- The line ending as a token, if the line has one. -/
  break? : Option Token
  next : Place
  deriving Inhabited

/-- The tokens of a line up to some place, the latest first. -/
structure LineReader where
  tokens : List Token
  /-- Where the plain text begins that no token holds yet. -/
  textStart : Nat
  /-- Whether a backslash guards its first character. -/
  escaped : Bool
  deriving Inhabited

namespace LineReader

/-- Makes a token of the plain text before an offset. -/
def addText (r : LineReader) (stop : Nat) : LineReader :=
  if r.textStart < stop then
    { r with tokens := ⟨.text r.escaped, r.textStart, stop⟩ :: r.tokens }
  else r

/-- Passes over the characters up to `start`, where plain text begins. -/
def skipTo (r : LineReader) (start : Nat) (escaped : Bool) : LineReader :=
  { r with textStart := start, escaped := escaped }

/-- Adds a token behind the plain text. -/
def add (r : LineReader) (kind : TokenKind) (start stop : Nat) : LineReader :=
  ⟨⟨kind, start, stop⟩ :: (r.addText start).tokens, stop, false⟩

/-- A backslash in front of `t`.  It guards punctuation.  In a table it goes away in front of a bar;
of two backslashes both do, and the bar is text. -/
def readBackslash (r : LineReader) (inTable : Bool) (o : Nat) (t : Text) : LineReader × Nat :=
  match t with
  | [] => (r, 0)
  | c :: t =>
    if !Text.isAsciiPunctuation c then (r, 0)
    else
      let r := r.addText o
      if c = '`' then
        let length := (t.takeWhile (· == '`')).length + 1
        (r.skipTo (o + 1) false |>.add (.backticks length true) (o + 1) (o + 1 + length), length)
      else if inTable ∧ c = '|' then (r.skipTo (o + 1) false, 1)
      else if inTable ∧ c = '\\' ∧ t.head? = some '|' then (r.skipTo (o + 2) true, 2)
      else (r.skipTo (o + 1) true, 1)

/-- A run of delimiter marks; `beyond` stands behind the text. -/
def readMarks (r : LineReader) (inTable : Bool) (before : Option Char) (o : Nat) (c : Char)
    (t beyond : Text) : LineReader × Nat :=
  let more := (t.takeWhile (· == c)).length
  let after := (t.drop more).head?.or beyond.head?
  let run := DelimiterRun.between inTable c (more + 1) before after
  (if run.isActive then r.add (.marks run) o (o + more + 1) else r, more)

/-- Reads what begins with the character `c` at an offset, in front of `t`; the number of characters
that it takes after the first one. -/
def step (r : LineReader) (inTable : Bool) (before : Option Char) (o : Nat) (c : Char)
    (t beyond : Text) : LineReader × Nat :=
  if c = '\\' then r.readBackslash inTable o t
  else if c = '`' then
    let more := (t.takeWhile (· == '`')).length
    (r.add (.backticks (more + 1) false) o (o + more + 1), more)
  else if c = '<' ∧ t.head? ≠ some '\\' then (r.add .angle o (o + 1), 0)
  else if c = '!' ∧ t.head? = some '[' then (r.add (.opening true) o (o + 2), 1)
  else if c = '[' then (r.add (.opening false) o (o + 1), 0)
  else if c = ']' then (r.add (.closing true) o (o + 1), 0)
  else if c = '&' then
    match characterReference? t with
    | some (value, length) => (r.add (.fixed value) o (o + 1 + length), length)
    | none => (r, 0)
  else if c = '\x00' then (r.add (.fixed ['\uFFFD']) o (o + 1), 0)
  else if DelimiterRun.isMark c then r.readMarks inTable before o c t beyond
  else (r, 0)

/-- The line at its end, without white space in front of it. -/
def finish (r : LineReader) (p : Place) : LineRead :=
  let spaces := min (p.countBefore isInnerSpace) (p.offset - r.textStart)
  ⟨(r.addText (p.offset - spaces)).tokens.reverse, none, p⟩

/-- The line at its ending.  An odd number of backslashes or two characters of white space in front
of it make it a hard break; backslashes do not at the end of the text. -/
def finishBreak (r : LineReader) (p : Place) : LineRead :=
  let q := p.advance ((endingLength? p.rest).getD 0)
  if p.countBefore (· == '\\') % 2 = 1 ∧ !q.rest.isEmpty then
    let start := p.offset - 1
    ⟨(r.addText start).tokens.reverse, some ⟨.hardBreak true, start, q.offset⟩, q⟩
  else
    let spaces := p.countBefore isInnerSpace
    let stop := p.offset - spaces
    let ending : Token :=
      if 2 ≤ spaces then ⟨.hardBreak false, stop, q.offset⟩ else ⟨.softBreak, p.offset, q.offset⟩
    ⟨(r.addText stop).tokens.reverse, some ending, q⟩

/-- Reads a line that begins at the offset `first`. -/
def readLine (inTable : Bool) (first : Nat) (beyond : Text) (r : LineReader) (p : Place) :
    LineRead :=
  match _h : p.rest with
  | [] => r.finish p
  | c :: t =>
    if isEnding c then if inTable then r.finish p else r.finishBreak p
    else if inTable ∧ c = '|' ∧ p.before.head? ≠ some '\\' then r.finish p
    else
      let before := if p.offset = first then none else p.before.head?
      let (r, more) := r.step inTable before p.offset c t beyond
      readLine inTable first beyond r (p.advance (more + 1))
termination_by p.rest.length
decreasing_by simp only [Place.rest_advance, List.length_drop, _h, List.length_cons]; omega

end LineReader

/-- Reads the line at a place into tokens.  A cell of a table ends in front of a bar. -/
def readLine (inTable : Bool) (p : Place) (beyond : Text) : LineRead :=
  LineReader.readLine inTable p.offset beyond ⟨[], p.offset, false⟩ p

end Weave.Markdown
