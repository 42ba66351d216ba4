import Weave.Markdown.Place

/-!
# Cursors

A cursor is a place in a line whose indentation is being read.  Indentation is counted in columns: a
tab reaches to the next multiple of four columns, and a container may take only some of the columns
of a tab.  The columns of a tab that are left over are `pending`.
-/

namespace Weave.Markdown

/-- A place in a line whose indentation is being read. -/
structure Cursor extends Place where
  /-- The bytes since the line's start or the last tab; tabs are as wide as this number leaves. -/
  sinceTab : Nat
  /-- The unread columns of the tab before the place. -/
  pending : Nat
  deriving DecidableEq, Repr, Inhabited

namespace Cursor

/-- The cursor at the start of a line. -/
def ofPlace (p : Place) : Cursor := ⟨p, 0, 0⟩

/-- The cursor behind the next `n` characters, which are ASCII and no tabs. -/
def advance (c : Cursor) (n : Nat) : Cursor := ⟨c.toPlace.advance n, c.sinceTab + n, c.pending⟩

/-- Skips up to `n` columns of spaces and tabs; the number of columns that were there, and the
cursor behind them. -/
def skipColumns : (n : Nat) → Cursor → Nat × Cursor
  | 0, c => (0, c)
  | n + 1, c =>
    if 0 < c.pending then
      let (k, d) := skipColumns n { c with pending := c.pending - 1 }
      (k + 1, d)
    else
      match c.rest with
      | ' ' :: _ =>
        let (k, d) := skipColumns n (c.advance 1)
        (k + 1, d)
      | '\t' :: _ =>
        let width := 4 - c.sinceTab % 4
        let (k, d) := skipColumns n ⟨c.toPlace.advance 1, 0, width - 1⟩
        (k + 1, d)
      | _ => (0, c)

/-- The place behind all spaces and tabs. -/
def skipBlanks (c : Cursor) : Place :=
  c.toPlace.advance (c.rest.takeWhile fun d => d == ' ' || d == '\t').length

/-- The pending columns as spaces, which verbatim content keeps. -/
def padding (c : Cursor) : Text := List.replicate c.pending ' '

/-- The cursor behind a quote marker and the column that may follow it. -/
def quoteMarker? (c : Cursor) : Option Cursor :=
  match c.rest with
  | '>' :: _ => some (skipColumns 1 (c.advance 1)).2
  | _ => none

end Cursor

end Weave.Markdown
