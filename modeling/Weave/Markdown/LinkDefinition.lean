import Weave.Markdown.Interruption
import Weave.Markdown.LinkPart

/-!
# Link definitions

A definition stands at the start of a paragraph: a label in brackets, a colon, a destination, and a
title unless it is missing.  Like a paragraph it goes on with the lines below it, but an underline
does not belong to it.
-/

namespace Weave.Markdown

/-- The number of characters at which a definition goes on in the line below it, unless the line
ends it.  An underline ends it, in a label only if it belongs to all containers. -/
def definitionLineStart? (chain : List Container) (inLabel : Bool) (t : Text) : Option Nat :=
  let line := (Place.ofText t).below chain
  if line.ends chain || line.underline?.isSome && (!inLabel || line.belongs) then none
  else some line.cursor.offset

/-- White space between the parts of a definition: its length, and whether a line ends in it.  More
than one does not. -/
def definitionSpace? (chain : List Container) (t : Text) : Option (Nat × Bool) :=
  let spaces := spaceLength t
  match endingLength? (t.drop spaces) with
  | none => some (spaces, false)
  | some ending => do
    let next : Text := t.drop (spaces + ending)
    let marks ← definitionLineStart? chain false next
    let inner : Text := next.drop marks
    let more := spaceLength inner
    if atLineEnd (inner.drop more) then none
    else some (spaces + ending + marks + more, true)

/-- The number of characters at which a title goes on in the line below it; the line must not be
blank. -/
def titleLineStart? (chain : List Container) (t : Text) : Option Nat := do
  let line := (Place.ofText t).below chain
  if line.ends chain || line.underline?.isSome then none
  else
    let content := line.cursor.skipBlanks
    if isBlankLine content.rest then none else some content.offset

/-- The title up to the character that closes it, which is passed over.  A parenthesis needs a
backslash in parentheses.  The counter skips the characters that a line begins with. -/
def definitionTitleBody? (lineStart? : Text → Option Nat) (closing : Char) :
    (skip : Nat) → Text → Option Scanned
  | _, [] => none
  | skip + 1, _ :: t => (definitionTitleBody? lineStart? closing skip t).map .pass
  | 0, c :: t =>
    if c = closing then some (.skipped 1)
    else if c = '(' ∧ closing = ')' then none
    else if c = '\r' ∧ t.head? = some '\n' then
      (definitionTitleBody? lineStart? closing 0 t).map .pass
    else if isEnding c then
      (lineStart? t).bind fun skip =>
        (definitionTitleBody? lineStart? closing skip t).map (.cons '\n')
    else if c = '\\' then
      match t.head? with
      | none => none
      | some d =>
        if isEnding d then (definitionTitleBody? lineStart? closing 0 t).map (.cons c)
        else
          (definitionTitleBody? lineStart? closing 1 t).map fun s =>
            ⟨c :: d :: s.text, s.length + 1⟩
    else (definitionTitleBody? lineStart? closing 0 t).map (.cons c)

/-- The character that closes what another one opens a title with. -/
def titleClosing? (c : Char) : Option Char :=
  if c = '"' ∨ c = '\'' then some c else if c = '(' then some ')' else none

/-- A title in quotes or parentheses. -/
def definitionTitle? (chain : List Container) (t : Text) : Option Scanned :=
  match t with
  | [] => none
  | c :: t => do
    let closing ← titleClosing? c
    let body ← definitionTitleBody? (titleLineStart? chain) closing 0 t
    return ⟨unescape false body.text, body.length + 1⟩

/-- A definition of a label. -/
structure LinkDefinition where
  key : Text
  target : LinkTarget
  /-- The place behind the definition, where nothing is left of the line. -/
  stop : Place
  deriving Repr, Inhabited

/-- The definition at a place.  Something else behind the title makes it invalid, unless the title
stands on a line of its own, which then does not belong to the definition. -/
def LinkDefinition.at? (chain : List Container) (p : Place) : Option LinkDefinition := do
  let inner ← Text.dropPrefix? "[" p.rest
  let label ← label? false (definitionLineStart? chain true) inner
  let colon := p.advance (label.length + 1)
  let behind ← Text.dropPrefix? ":" colon.rest
  let (space, _) ← definitionSpace? chain behind
  let start := colon.advance (space + 1)
  let raw ← destination? start.rest
  if raw.length = 0 then none
  let stop := start.advance raw.length
  let dest := unescape false raw.text
  let untitled : LinkDefinition := ⟨label.text, ⟨dest, []⟩, stop⟩
  match definitionSpace? chain stop.rest with
  | none => some untitled
  | some (space, broken) =>
    if space = 0 then none
    else
      let titleStart := stop.advance space
      let titled := (definitionTitle? chain titleStart.rest).bind fun title =>
        let stop := titleStart.advance title.length
        if isBlankLine stop.rest then some ⟨label.text, ⟨dest, title.text⟩, stop⟩ else none
      if broken then some (titled.getD untitled) else titled

end Weave.Markdown
