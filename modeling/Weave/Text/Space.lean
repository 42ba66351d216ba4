import Weave.Text.Basic

/-!
# White space

The White_Space property of Unicode, the blanks of a line (space and tab), and the operations
that cut a text at white space.
-/

namespace Weave.Text

/-- The characters with the Unicode property White_Space. -/
def isSpace (c : Char) : Bool :=
  let n := c.toNat
  (9 ≤ n && n ≤ 13) || n == 0x20 || n == 0x85 || n == 0xa0 || n == 0x1680
    || (0x2000 ≤ n && n ≤ 0x200a) || n == 0x2028 || n == 0x2029 || n == 0x202f || n == 0x205f
    || n == 0x3000

/-- A space or a tab. -/
def isBlank (c : Char) : Bool := c == ' ' || c == '\t'

theorem isSpace_of_isBlank {c : Char} (h : isBlank c) : isSpace c := by
  simp only [isBlank, Bool.or_eq_true, beq_iff_eq] at h
  rcases h with rfl | rfl <;> rfl

/-- The text without leading white space. -/
def trimStart (t : Text) : Text := t.dropWhile isSpace

/-- The text without trailing white space. -/
def trimEnd (t : Text) : Text := t.trimEndWhile isSpace

/-- The text without white space at either end. -/
def trim (t : Text) : Text := trimEnd (trimStart t)

/-- Whether the text holds nothing but white space. -/
def isAllSpace (t : Text) : Bool := t.all isSpace

/-- Puts a character in front of the first word, or opens a word when there is none. -/
def consWord (c : Char) : Bool → List Text → List Text
  | true, w :: ws => (c :: w) :: ws
  | _, ws => [c] :: ws

/-- The words between runs of separators.  A character joins the word after it when the next
character is no separator. -/
def wordsBetween (separates : Char → Bool) : Text → List Text
  | [] => []
  | c :: t =>
    if separates c then wordsBetween separates t
    else consWord c (t.head?.any fun d => !separates d) (wordsBetween separates t)

/-- The words between runs of white space. -/
def words (t : Text) : List Text := wordsBetween isSpace t

end Weave.Text
