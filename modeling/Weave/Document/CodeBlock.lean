import Weave.Span
import Weave.Text.Space

/-!
# Code blocks

A code block has a language word and an ordered list of metadata entries, both written in the info
string of its fence.  The metadata is a list with possibly repeated keys; look-ups see the first
entry of a key.
-/

namespace Weave

/-- One `key=value` or bare `key` of an info string. -/
structure MetaEntry where
  key : Text
  value : Option Text
  deriving DecidableEq, Repr, Inhabited

/-- A fenced or indented code block. -/
structure CodeBlock where
  language : Option Text
  metadata : List MetaEntry
  content : Text
  span : ByteRange
  deriving DecidableEq, Repr, Inhabited

/-- The written form of an entry: a value is quoted when it is empty or holds white space. -/
def MetaEntry.render (e : MetaEntry) : Text :=
  match e.value with
  | none => e.key
  | some v =>
    if v.any Text.isSpace || v.isEmpty then e.key ++ "=\"" ++ v ++ "\"" else e.key ++ "=" ++ v

namespace CodeBlock

/-- The value of the first entry with this key. -/
def metaValue? (b : CodeBlock) (key : Text) : Option Text :=
  (b.metadata.find? (·.key == key)).bind (·.value)

/-- Whether an entry has this key. -/
def hasMeta (b : CodeBlock) (key : Text) : Bool := b.metadata.any (·.key == key)

/-- The entries with the value of the first one under `key` replaced, or an entry added at the
end. -/
def setEntry (key value : Text) : List MetaEntry → List MetaEntry
  | [] => [⟨key, some value⟩]
  | e :: es => if e.key = key then ⟨e.key, some value⟩ :: es else e :: setEntry key value es

/-- The block with this value under `key`. -/
def setMeta (b : CodeBlock) (key value : Text) : CodeBlock :=
  { b with metadata := setEntry key value b.metadata }

/-- The block without the entries under `key`. -/
def removeMeta (b : CodeBlock) (key : Text) : CodeBlock :=
  { b with metadata := b.metadata.filter (·.key != key) }

/-- The info string: the language word and the entries, with single spaces between. -/
def infoString (b : CodeBlock) : Text :=
  Text.join " " (b.language.toList ++ b.metadata.map MetaEntry.render)

/-- The fenced form of the block.  Content that lacks a final newline gets one. -/
def render (b : CodeBlock) : Text :=
  "```" ++ b.infoString ++ "\n" ++ b.content
    ++ (if b.content.isEmpty || b.content.endsWith "\n" then [] else ['\n']) ++ "```\n"

end CodeBlock

end Weave
