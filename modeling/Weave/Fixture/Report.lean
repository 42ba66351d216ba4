import Weave.Fixture.Category
import Weave.Fixture.Check

/-!
# Reports on fixtures

A run over fixtures is reported by category, one line to a fixture.  The failures follow with their
messages, and the counts end the report.
-/

namespace Weave

/-- The styles of a report. -/
inductive Style where
  | bold
  | red
  | green
  deriving DecidableEq, Repr, Inhabited

/-- The code of a style in terminal sequences. -/
def Style.code : Style → Text
  | bold => "1"
  | red => "31"
  | green => "32"

/-- A text in a style, if there are to be styles. -/
def Style.paint (style : Style) (colored : Bool) (t : Text) : Text :=
  if colored then "\x1b[" ++ style.code ++ "m" ++ t ++ "\x1b[0m" else t

namespace Verdict

/-- The line of a verdict. -/
def line (colored : Bool) (v : Verdict) : Text :=
  let mark :=
    if v.failure.isSome then Style.red.paint colored "FAIL" else Style.green.paint colored "PASS"
  "  " ++ mark ++ "  " ++ v.label ++ "\n"

/-- A line of the message of a failure. -/
def messageLine (line : Text) : Text := "  " ++ line ++ "\n"

/-- The message of a failed fixture under its path; nothing for one that passed. -/
def details (v : Verdict) : Text :=
  match v.failure with
  | none => []
  | some failure =>
    "\n  --- " ++ v.path ++ " ---\n" ++ failure.message.lines.flatMap messageLine

end Verdict

/-- The verdicts on the fixtures of a category. -/
structure CategoryVerdicts where
  name : Text
  verdicts : List Verdict
  deriving Repr, Inhabited

/-- The lines of a category: its name, unless it stands for a single file, and its verdicts. -/
def CategoryVerdicts.lines (colored titled : Bool) (c : CategoryVerdicts) : Text :=
  (if titled then "\n" ++ Style.bold.paint colored (Category.label c.name) ++ "\n" else [])
    ++ c.verdicts.flatMap (Verdict.line colored)

/-- The end of a report: the messages of the failures, and the counts. -/
def summary (colored : Bool) (verdicts : List Verdict) : Text :=
  let failed := verdicts.filter (·.failure.isSome)
  let passed := verdicts.length - failed.length
  if failed.isEmpty then
    "\ntest result: " ++ Style.green.paint colored "ok" ++ ". " ++ Text.ofNat passed
      ++ " passed, 0 failed\n"
  else
    "\nfailures:\n" ++ failed.flatMap Verdict.details ++ "\ntest result: "
      ++ Style.red.paint colored "FAILED" ++ ". " ++ Text.ofNat passed ++ " passed, "
      ++ Text.ofNat failed.length ++ " failed (of " ++ Text.ofNat verdicts.length ++ ")\n"

/-- What a run over fixtures reports, and whether all of them passed. -/
structure Report where
  text : Text
  passed : Bool
  deriving DecidableEq, Repr, Inhabited

namespace Report

/-- The report of some categories of fixtures. -/
def ofCategories (tree : FileTree) (config : Config) (colored titled : Bool)
    (categories : List Category) : Report :=
  let checked := categories.map fun c =>
    (⟨c.name, c.fixtures.map (Fixture.check tree config)⟩ : CategoryVerdicts)
  let verdicts := checked.flatMap (·.verdicts)
  ⟨checked.flatMap (CategoryVerdicts.lines colored titled) ++ summary colored verdicts,
    verdicts.all (·.failure.isNone)⟩

/-- The report when there is no fixture at or below a path. -/
def noFixtures (path : Text) : Text := "no .test.md files found in " ++ path ++ "\n"

/-- The warning about a request that names no further category. -/
def unknownCategory (all : List Category) (request : Text) : Text :=
  "warning: category \x27" ++ request ++ "\x27 not found (available: "
    ++ Text.join ", " (all.map (Category.label ·.name)) ++ ")\n"

/-- The report on the fixtures of a directory. -/
def ofDirectory (tree : FileTree) (config : Config) (colored : Bool) (root : Text)
    (requests : List Text) : Report :=
  let all := Category.discover tree root
  if all.isEmpty then ⟨noFixtures root, false⟩
  else
    let requests := requests.map Category.trimRequest
    let warnings := (Category.idleRequests all [] requests).flatMap (unknownCategory all)
    let selected := Category.select all requests
    if selected.isEmpty then ⟨warnings ++ "no matching categories found\n", false⟩
    else
      let report := ofCategories tree config colored true selected
      { report with text := warnings ++ report.text }

/-- The report on a fixture, or on the fixtures below a directory in the requested categories. -/
def ofPath (tree : FileTree) (config : Config) (colored : Bool) (path : Text)
    (requests : List Text) : Report :=
  if tree.isFile path then ofCategories tree config colored false [⟨[], [path]⟩]
  else ofDirectory tree config colored path requests

/-- The line of a category in a list of categories. -/
def categoryLine (c : Category) : Text :=
  "  " ++ Category.label c.name ++ " (" ++ Text.ofNat c.fixtures.length ++ " tests)\n"

/-- The categories below a path with the numbers of their fixtures. -/
def categories (tree : FileTree) (path : Text) : Text :=
  let all := Category.discover tree path
  if tree.isFile path then "(single file, no categories)\n"
  else if all.isEmpty then noFixtures path
  else "available categories:\n" ++ all.flatMap categoryLine

end Report

end Weave
