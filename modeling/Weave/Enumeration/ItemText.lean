import Weave.Document.Inline
import Weave.Enumeration.Ordinal

/-!
# Text of list items

The first paragraph of a list item is shown without the number that its author wrote into it, and
without the colons that mark the item as a header.
-/

namespace Weave.ItemText

/-- The text after a leading number, its dot and the white space after it. -/
def dropNumber? (t : Text) : Option Text :=
  let (groups, rest) := Ordinal.dotted t
  match rest with
  | '.' :: after =>
    if !groups.isEmpty ∧ after.head?.any Text.isSpace then some (after.dropWhile Text.isSpace)
    else none
  | _ => none

/-- Removes a leading number from the first text, and says whether it did.  A text that becomes
empty goes too. -/
def stripNumber (content : List Inline) : Bool × List Inline :=
  match content with
  | .text t :: rest =>
    match dropNumber? t with
    | some [] => (true, rest)
    | some kept => (true, .text kept :: rest)
    | none => (false, content)
  | _ => (false, content)

mutual

/-- Removes a final colon of the texts in an element, and says whether there was one.  Emphasis is
entered, links are not. -/
def takeColon : Inline → Bool × Inline
  | .text t =>
    match Text.dropSuffix? ":" t with
    | some kept => (true, .text kept)
    | none => (false, .text t)
  | .strong content => ((takeColons content).1, .strong (takeColons content).2)
  | .emphasis content => ((takeColons content).1, .emphasis (takeColons content).2)
  | .strikethrough content => ((takeColons content).1, .strikethrough (takeColons content).2)
  | .codeSpan code => (false, .codeSpan code)
  | .link dest title content => (false, .link dest title content)
  | .image dest title alt => (false, .image dest title alt)
  | .softBreak => (false, .softBreak)
  | .hardBreak => (false, .hardBreak)

/-- Removes the final colons of the texts of a run, and says whether there was one. -/
def takeColons : List Inline → Bool × List Inline
  | [] => (false, [])
  | x :: xs => ((takeColon x).1 || (takeColons xs).1, (takeColon x).2 :: (takeColons xs).2)

end

end Weave.ItemText
