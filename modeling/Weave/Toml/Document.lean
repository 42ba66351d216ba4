import Weave.Toml.Statement

/-!
# TOML documents

The statements of a document build its table one after the other.  Assignments go to the table of
the last header above them.
-/

namespace Weave.Toml

/-- A document under construction: its table, and the path of the last header. -/
structure Draft where
  header : List Text
  entries : Entries
  deriving Repr, Inhabited

namespace Draft

/-- Changes the key of a header in the table around it; the header holds from then on. -/
def enter? (draft : Draft) (f : Text → Entries → Option Entries) (path : List Text) :
    Option Draft := do
  let key ← path.getLast?
  let entries ← within? (f key) path.dropLast draft.entries
  return ⟨path, entries⟩

/-- The effect of a statement. -/
def add? (draft : Draft) : Statement → Option Draft
  | .header path => draft.enter? openTable? path
  | .doubleHeader path => draft.enter? addTable? path
  | .assignment path value =>
    (within? (assign? value path) draft.header draft.entries).map fun entries =>
      { draft with entries }

end Draft

/-- The table of a document.  A byte order mark at its start does not count. -/
def read? (t : Text) : Option Entries := do
  let statements ← statements? ((Text.dropPrefix? ['\ufeff'] t).getD t)
  let draft ← statements.foldlM Draft.add? ⟨[], []⟩
  return draft.entries

end Weave.Toml
