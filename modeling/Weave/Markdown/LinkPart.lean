import Weave.Markdown.CharacterReference
import Weave.Markdown.Place
import Weave.Text.Case

/-!
# Parts of links

A link leads to a destination and may have a title; a reference names both by a label that is
defined elsewhere.  The parts may go over several lines.  At a line ending a scanner asks for the
number of characters at which the next line begins, since marks of containers may stand in front.
-/

namespace Weave.Markdown

/-- Where a link leads, and its title. -/
structure LinkTarget where
  dest : Text
  title : Text
  deriving DecidableEq, Repr, Inhabited

/-- The number of bytes of a target. -/
def LinkTarget.byteLength (target : LinkTarget) : Nat :=
  target.dest.byteLength + target.title.byteLength

/-- A text that a scanner has read, and the number of characters that it took. -/
structure Scanned where
  text : Text
  length : Nat
  deriving DecidableEq, Repr, Inhabited

namespace Scanned

/-- Nothing but some characters that were passed over. -/
def skipped (length : Nat) : Scanned := ⟨[], length⟩

/-- A character in front. -/
def cons (c : Char) (s : Scanned) : Scanned := ⟨c :: s.text, s.length + 1⟩

/-- A character in front that is passed over. -/
def pass (s : Scanned) : Scanned := ⟨s.text, s.length + 1⟩

end Scanned

/-! ## Destinations -/

/-- A destination in angle brackets, behind the opening one. -/
def angleDestination? : (guarded : Bool) → Text → Option Text
  | _, [] => none
  | guarded, c :: t =>
    if guarded ∧ Text.isAsciiPunctuation c then (angleDestination? false t).map (c :: ·)
    else if c = '>' then some []
    else if isEnding c ∨ c = '<' then none
    else (angleDestination? (c == '\\') t).map (c :: ·)

/-- The number of parentheses that may be open in a destination when another one is opened. -/
def maxParentheses : Nat := 5

/-- A destination without brackets, inside `nest` parentheses.  It ends before white space, a
control character, or a parenthesis that closes none of its own. -/
def bareDestination? : (nest : Nat) → (guarded : Bool) → Text → Option Text
  | nest, _, [] => if nest = 0 then some [] else none
  | nest, guarded, c :: t =>
    if guarded ∧ Text.isAsciiPunctuation c then (bareDestination? nest false t).map (c :: ·)
    else if c ≤ ' ' then if nest = 0 then some [] else none
    else if c = '(' then
      if maxParentheses < nest then none
      else (bareDestination? (nest + 1) false t).map (c :: ·)
    else if c = ')' then
      if nest = 0 then some [] else (bareDestination? (nest - 1) false t).map (c :: ·)
    else (bareDestination? nest (c == '\\') t).map (c :: ·)

/-- A destination as it is written. -/
def destination? (t : Text) : Option Scanned :=
  match t with
  | '<' :: t => (angleDestination? false t).map fun raw => ⟨raw, raw.length + 2⟩
  | t => (bareDestination? 0 false t).map fun raw => ⟨raw, raw.length⟩

/-! ## Labels -/

/-- A label that has been read. -/
structure LabelRead extends Scanned where
  /-- What counts against the longest label: two for an escape, and the bytes of white space and of
  characters beyond ASCII. -/
  weight : Nat
  /-- Whether the label holds more than white space and escapes. -/
  solid : Bool
  deriving DecidableEq, Repr, Inhabited

namespace LabelRead

/-- A character in front. -/
def cons (c : Char) (weight : Nat) (solid : Bool) (r : LabelRead) : LabelRead :=
  ⟨r.toScanned.cons c, r.weight + weight, r.solid || solid⟩

/-- A character of white space in front that does not belong to the label. -/
def pass (r : LabelRead) : LabelRead := ⟨r.toScanned.pass, r.weight + 1, r.solid⟩

end LabelRead

/-- The label up to its closing bracket, which is passed over.  A label holds no bracket without a
backslash, and no blank line; `broken` says that a line has ended right before.  The counter skips
characters, the first of which are marks, and `lineStart?` tells their number. -/
def labelBody? (inTable : Bool) (lineStart? : Text → Option Nat) :
    (skip : Nat) → (broken : Bool) → Text → Option LabelRead
  | _, _, [] => none
  | skip + 1, broken, _ :: t => (labelBody? inTable lineStart? skip broken t).map .pass
  | 0, broken, c :: t =>
    if c = ']' then some ⟨.skipped 1, 0, false⟩
    else if c = '[' then none
    else if c = '\\' then
      match t with
      | [] => none
      | d :: t =>
        if inTable ∧ d = '|' then
          (labelBody? inTable lineStart? 0 false t).map fun r => (r.cons d 1 false).pass
        else
          (labelBody? inTable lineStart? 0 false t).map fun r =>
            (r.cons d d.utf8Size (1 < d.utf8Size)).cons c 1 false
    else if c = '\r' ∧ t.head? = some '\n' then
      if broken then none
      else (labelBody? inTable lineStart? 0 false t).map (·.cons c 1 false)
    else if isEnding c then
      if broken then none
      else
        (lineStart? t).bind fun skip =>
          (labelBody? inTable lineStart? skip true t).map (·.cons c 1 false)
    else if isInnerSpace c then
      (labelBody? inTable lineStart? 0 broken t).map (·.cons c 1 false)
    else
      (labelBody? inTable lineStart? 0 false t).map
        (·.cons c (if 1 < c.utf8Size then c.utf8Size else 0) true)

/-- The weight that a label stays under. -/
def labelWeightLimit : Nat := 1000

/-- The words of a label, by which labels are compared. -/
def labelWords : Text → List Text
  | [] => []
  | c :: t =>
    if isAnySpace c then [] :: labelWords t
    else
      match labelWords t with
      | [] => [[c]]
      | word :: words => (c :: word) :: words

/-- The form in which labels are compared: single spaces between words, and no case. -/
def labelKey (label : Text) : Text :=
  Text.caseFold (Text.join " " ((labelWords label).filter (!·.isEmpty)))

/-- A label behind its opening bracket, as the form by which it is compared. -/
def label? (inTable : Bool) (lineStart? : Text → Option Nat) (t : Text) : Option Scanned :=
  (labelBody? inTable lineStart? 0 false t).bind fun r =>
    if r.solid ∧ r.weight < labelWeightLimit then some ⟨labelKey r.text, r.length⟩ else none

/-! ## Targets of labels -/

/-- The targets of labels.  The first definition of a label counts. -/
abbrev LinkTargets := List (Text × LinkTarget)

/-- The target of a label. -/
def LinkTargets.find? (targets : LinkTargets) (key : Text) : Option LinkTarget :=
  (List.find? (·.1 == key) targets).map (·.2)

end Weave.Markdown
