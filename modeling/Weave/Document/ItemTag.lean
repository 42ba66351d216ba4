import Weave.Diagnostic
import Weave.Document.Names
import Weave.Text.Space

/-!
# Tags of list items

A list item may end its first line with a tag, `{.feature}`, which selects its component.  A tag
that is not known is taken off all the same and reported.
-/

namespace Weave

/-- An item carries a tag that names no variant. -/
structure UnknownVariant where
  tag : Text
  span : ByteRange
  deriving DecidableEq, Repr, Inhabited

namespace UnknownVariant

/-- The message of the warning. -/
def message (w : UnknownVariant) : Text :=
  "unknown list item variant `\x7b." ++ w.tag ++ "\x7d`"

/-- The warning as a diagnostic of the given file. -/
def toDiagnostic (file : Nat) (w : UnknownVariant) : Diagnostic where
  message := w.message
  label := ⟨file, w.span, "ignored"⟩
  notes := ["known variants: " ++ Text.join ", " Names.itemVariants]

end UnknownVariant

namespace ItemTag

/-- A character of a tag's name. -/
def isTagChar (c : Char) : Bool := c.isAlphanum || c == '-' || c == '_'

/-- Splits `text {.name}` into the text before the tag, without trailing white space, and the
name. -/
def split? (t : Text) : Option (Text × Text) := do
  let inner ← Text.dropSuffix? "\x7d" t.trimEnd
  let (before, name) ← Text.splitLast? "\x7b." inner
  if !name.isEmpty && name.all isTagChar then some (before.trimEnd, name) else none

/-- Takes the tag off the end of the first line.  A text that becomes empty is removed. -/
def take (content : List Inline) : Option Text × List Inline :=
  let line := content.takeWhile (!·.isBreak)
  let rest := content.dropWhile (!·.isBreak)
  match line.getLast? with
  | some (.text t) =>
    match split? t with
    | some (kept, name) =>
      let tail := if kept.isEmpty then [] else [Inline.text kept]
      (some name, line.dropLast ++ tail ++ rest)
    | none => (none, content)
  | _ => (none, content)

/-- Takes the tag off an item's first paragraph.  A tag that names no variant is reported. -/
def takeVariant (item : ListItem) : ListItem × List UnknownVariant :=
  match item.children with
  | .paragraph content :: others =>
    match take content with
    | (some tag, content) =>
      let children := .paragraph content :: others
      if tag ∈ Names.itemVariants then ({ item with children, variant := some tag }, [])
      else ({ item with children, variant := none }, [⟨tag, item.span⟩])
    | (none, _) => ({ item with variant := none }, [])
  | _ => ({ item with variant := none }, [])

end ItemTag

end Weave
