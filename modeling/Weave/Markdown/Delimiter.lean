import Weave.Text.Punctuation
import Weave.Text.Space

/-!
# Delimiter runs

Runs of `*`, `_` and `~` open and close emphasis.  Whether a run may do so depends on the characters
beside it: the inner side must not be white space, and inside a word or next to punctuation only
some marks count.
-/

namespace Weave.Markdown

/-- A run of delimiter marks. -/
structure DelimiterRun where
  mark : Char
  length : Nat
  canOpen : Bool
  canClose : Bool
  deriving DecidableEq, Repr, Inhabited

namespace DelimiterRun

/-- Whether a character is a mark of a delimiter run. -/
def isMark (c : Char) : Bool := c == '*' || c == '_' || c == '~'

/-- Whether a run next to this character on its outer side stands apart from any word. -/
def isApart (outer : Char) : Bool := Text.isSpace outer || Text.isPunctuation outer

/-- Whether a run opens emphasis of what begins with `after`; nothing stands before the first run of
a line.  Two tildes open anywhere. -/
def opens (inTable : Bool) (mark : Char) (length : Nat) (before after : Option Char) : Bool :=
  match after, before with
  | none, _ => false
  | some a, none => !Text.isSpace a
  | some a, some b =>
    !Text.isSpace a && !(inTable && a == '|')
      && (mark == '*' && !Text.isPunctuation a || mark == '~' && 1 < length
        || mark == '~' && b == '~' && !Text.isPunctuation a || isApart b)

/-- Whether a run closes emphasis of what ends with `before`. -/
def closes (inTable : Bool) (mark : Char) (length : Nat) (before after : Option Char) : Bool :=
  match before, after with
  | none, _ => false
  | some b, none => !Text.isSpace b
  | some b, some a =>
    !Text.isSpace b
      && (inTable && a == '|'
        || (mark == '*' || mark == '~' && 1 < length) && !Text.isPunctuation b
        || mark == '~' && b == '~' || isApart a)

/-- The run of some marks between two characters. -/
def between (inTable : Bool) (mark : Char) (length : Nat) (before after : Option Char) :
    DelimiterRun :=
  ⟨mark, length, opens inTable mark length before after, closes inTable mark length before after⟩

/-- Whether the run can be a delimiter: it can open or close, and no more than two tildes. -/
def isActive (r : DelimiterRun) : Bool :=
  (r.canOpen || r.canClose) && (r.mark != '~' || r.length ≤ 2)

/-- Whether the run can both open and close. -/
def isBoth (r : DelimiterRun) : Bool := r.canOpen && r.canClose

end DelimiterRun

end Weave.Markdown
