import Weave.Span

/-!
# Diagnostics

A diagnostic is what a reader of a document is shown about one place of it.  Every diagnostic here
is a warning with one label.
-/

namespace Weave

/-- A marked range of a file with its message. -/
structure Label where
  file : Nat
  range : ByteRange
  message : Text
  deriving DecidableEq, Repr, Inhabited

/-- A warning about a place of a file. -/
structure Diagnostic where
  message : Text
  label : Label
  notes : List Text
  deriving DecidableEq, Repr, Inhabited

end Weave
