import Weave.Document.CodeBlock

/-!
# Fence locators

A fence names code by a locator, `path[:symbol]`, in its `file` entry.  The compact form writes
the locator into the language word, `python:path[:symbol]`, and is normalized to the entry.
-/

namespace Weave

/-- The place of a piece of code: a path and possibly a symbol in the file. -/
structure Locator where
  path : Text
  symbol : Option Text
  deriving DecidableEq, Repr, Inhabited

namespace Locator

/-- The metadata key of a locator. -/
def fileKey : Text := "file"

/-- Reads `path[:symbol]`.  The last colon separates the symbol, unless the path would be empty or
the symbol would hold a slash. -/
def parse? (raw : Text) : Option Locator :=
  let raw := raw.trim
  if raw.isEmpty then none
  else
    match Text.splitLast? ":" raw with
    | some (path, symbol) =>
      if path.isEmpty ∨ '/' ∈ symbol then some ⟨raw, none⟩
      else if symbol.isEmpty then some ⟨path, none⟩
      else some ⟨path, some symbol⟩
    | none => some ⟨raw, none⟩

/-- The written form. -/
def render (l : Locator) : Text :=
  match l.symbol with
  | some symbol => l.path ++ ":" ++ symbol
  | none => l.path

/-- Moves the locator of a compact language word into the `file` entry.  A block that has such an
entry stays as it is. -/
def normalize (b : CodeBlock) : CodeBlock :=
  if b.hasMeta fileKey then b
  else
    match b.language.bind (Text.splitFirst? ":") with
    | some (language, rest) =>
      if language.isEmpty || rest.isEmpty then b
      else { b with language := some language }.setMeta fileKey rest
    | none => b

/-- The locator of a normalized block. -/
def of? (b : CodeBlock) : Option Locator := (b.metaValue? fileKey).bind parse?

end Locator

end Weave
