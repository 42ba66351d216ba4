import Weave.Markdown.Block
import Weave.Markdown.HeadingAttributes

/-!
# Headings

A heading is marked by number signs in front, or by an underline below a paragraph.  Attributes at
its end do not belong to its content, nor do number signs that close it.
-/

namespace Weave.Markdown

/-- A leaf block, and the place behind it. -/
structure Leaf where
  block : Block
  next : Place
  deriving Inhabited

/-- The tokens with the last one ending at an offset. -/
def stopLastAt (stop : Nat) : List Token → List Token
  | [] => []
  | [k] => [{ k with stop := stop }]
  | k :: ks => k :: stopLastAt stop ks

/-- A heading that begins with `rank` number signs. -/
def markedHeading (chain : List Container) (rank : Nat) (p : Place) : Leaf :=
  let marked := p.advance rank
  match endingLength? marked.rest with
  | some ending =>
    let next := marked.advance ending
    ⟨.heading rank none .empty ⟨p.offset, next.offset⟩, next⟩
  | none =>
    let start := marked.skipSpaces
    let line := throughFeed start.rest
    let next := start.advance line.length
    let (text, id) :=
      match splitAttributes? line with
      | some (text, block) => (text, blockId? block)
      | none => (line, none)
    let stop := start.offset + (dropClosingMarks text).byteLength
    let beyond : Text := start.rest.drop text.length
    let tokens := (readLine false { start with rest := text } beyond).tokens
    ⟨.heading rank id (.between chain false start next.offset (stopLastAt stop tokens))
      ⟨p.offset, next.offset⟩, next⟩

/-- The tokens up to an offset.  Where an escape begins there, its backslash stays as text. -/
def cutTokens (stop : Nat) : List Token → List Token
  | [] => []
  | k :: ks =>
    if k.stop < stop then k :: cutTokens stop ks
    else if k.stop = stop then [k]
    else if k.start = stop then
      if k.kind = .text true then [{ k with start := stop - 1, stop := stop }] else []
    else [{ k with stop := stop }]

/-- The heading that an underline makes of a paragraph which began at `p`.  White space at the end
stays only in front of a backslash that ends the last line. -/
def underlinedHeading (chain : List Container) (rank : Nat) (p : Place) (tokens : List Token)
    (backslash : Option Token) (next : Place) : Leaf :=
  let tail : List Token := backslash.toList.map fun k => ⟨.text false, k.start, k.start + 1⟩
  let heading := fun (id : Option Text) (tokens : List Token) =>
    Leaf.mk (.heading rank id (.between chain false p next.offset (tokens ++ tail))
      ⟨p.offset, next.offset⟩) next
  match tokens.getLast? with
  | none => heading none tokens
  | some last =>
    let whole := p.textTo last.stop
    let stopOf := fun (text : Text) =>
      let kept := if tail.isEmpty then Text.trimEndWhile isInnerSpace text else text
      p.offset + Text.byteLength kept
    match splitAttributes? whole with
    | some (text, block) =>
      heading (blockId? block) (stopLastAt (stopOf text) (cutTokens (stopOf text) tokens))
    | none => heading none (stopLastAt (stopOf whole) tokens)

end Weave.Markdown
