import Weave.Text.Basic

/-!
# Lines

Two views of a text by lines.  `chunks` keeps each line's newline, so the chunks concatenate to
the text; `lines` drops the newline and a carriage return before it.
-/

namespace Weave.Text

/-- The lines with their newlines; the last one may lack it. -/
def chunks : Text → List Text
  | [] => []
  | c :: t =>
    if c = '\n' then [c] :: chunks t
    else
      match chunks t with
      | [] => [[c]]
      | line :: lines => (c :: line) :: lines

/-- A line without its newline and without the carriage return before that newline. -/
def dropNewline (line : Text) : Text :=
  match dropSuffix? ['\n'] line with
  | none => line
  | some body => (dropSuffix? ['\r'] body).getD body

/-- The lines without their terminators. -/
def lines (t : Text) : List Text := (chunks t).map dropNewline

/-- The text without a line ending at its start. -/
def dropLineEnding (t : Text) : Text :=
  match t with
  | '\n' :: t => t
  | '\r' :: '\n' :: t => t
  | t => t

/-- The line, from 1, of a byte offset; every newline before the offset counts. -/
def lineOfOffset : Text → Nat → Nat
  | _, 0 => 1
  | [], _ => 1
  | c :: t, n + 1 => (if c = '\n' then 1 else 0) + lineOfOffset t (n + 1 - c.utf8Size)

/-- Nothing is lost by cutting a text into chunks. -/
@[simp] theorem flatten_chunks (t : Text) : (chunks t).flatten = t := by
  induction t with
  | nil => rfl
  | cons c t ih =>
    unfold chunks
    split
    · simp [ih]
    · split
      next h => rw [h] at ih; simp_all
      next line lines h => rw [h] at ih; simp_all

end Weave.Text
