import Weave.Diagnostic

/-!
# Warnings of resolution

Why a fence was left as it was written.  A warning carries the place of its fence and never stops
a run.
-/

namespace Weave

/-- Why a locator led to no code. -/
inductive WarningKind where
  /-- The symbol is found in neither an index nor the file. -/
  | symbolNotFound (symbol path : Text)
  /-- An indexed path without an entry. -/
  | notIndexed (path : Text)
  /-- A project file that cannot be read. -/
  | unreadableFile (path reason : Text)
  deriving DecidableEq, Repr, Inhabited

/-- The message of a warning. -/
def WarningKind.message : WarningKind → Text
  | symbolNotFound symbol path => "symbol `" ++ symbol ++ "` not found in " ++ path
  | notIndexed path => "no indexed source for " ++ path
  | unreadableFile path reason => "cannot read " ++ path ++ ": " ++ reason

/-- A warning about the fence at a place. -/
structure Warning where
  kind : WarningKind
  span : ByteRange
  deriving DecidableEq, Repr, Inhabited

/-- The warning as a diagnostic of the given file. -/
def Warning.toDiagnostic (file : Nat) (w : Warning) : Diagnostic where
  message := w.kind.message
  label := ⟨file, w.span, "left unresolved"⟩
  notes := []

end Weave
