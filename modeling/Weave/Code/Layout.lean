import Weave.Symbol.Definition

/-!
# Layout of code

Code taken out of a file loses the indentation that all its lines share, its runs of blank lines
shrink to one, and it ends in one newline.
-/

namespace Weave.Code

/-- The smallest indentation among the lines that are not blank, or 0. -/
def commonIndent (code : Text) : Nat :=
  ((code.lines.filter (!·.isAllSpace)).map indentOf).min?.getD 0

/-- A line without the common indentation; a blank line loses all of its own. -/
def dedentLine (common : Nat) (line : Text) : Text :=
  if line.isAllSpace then line.dropWhile Text.isBlank else line.drop common

/-- Code without the indentation shared by all lines that are not blank. -/
def dedent (code : Text) : Text :=
  let common := commonIndent code
  if common = 0 then code else code.chunks.flatMap (dedentLine common)

/-- Whether a line consists of spaces and tabs and ends in a newline. -/
def isBlankLine (line : Text) : Bool := line.dropWhile Text.isBlank == ['\n']

/-- Shrinks every run of two or more blank lines after a line to one empty line. -/
def collapseBlankRuns (lines : List Text) : List Text :=
  match lines with
  | [] => []
  | line :: rest =>
    if line.endsWith "\n" && 2 ≤ (rest.takeWhile isBlankLine).length then
      line :: ['\n'] :: collapseBlankRuns (rest.dropWhile isBlankLine)
    else line :: collapseBlankRuns rest
termination_by lines.length
decreasing_by
  · exact Nat.lt_succ_of_le (List.dropWhile_sublist _).length_le
  · simp

/-- Code with runs of blank lines shrunk and exactly one newline at the end; nothing stays of code
that is blank. -/
def normalize (code : Text) : Text :=
  let body := Text.trimEndWhile (fun c => c == '\n' || Text.isBlank c)
    (collapseBlankRuns code.chunks).flatten
  if body.isEmpty then [] else body ++ ['\n']

end Weave.Code
