import Weave.Command.Arguments
import Weave.Fixture.Report
import Weave.Json.Document
import Weave.Symbol.Extract

/-!
# Running commands

A command reads files of a tree and answers what is to be printed, and the exit code: zero, one for
an error or a failed fixture, and two for arguments that say nothing to do.
-/

namespace Weave.Command

/-- What a run leaves behind. -/
structure Outcome where
  exitCode : Nat
  /-- The standard output. -/
  output : Text
  /-- The standard error. -/
  errors : Text
  deriving DecidableEq, Repr, Inhabited

/-- An output without errors. -/
def Outcome.printed (output : Text) : Outcome := ⟨0, output, []⟩

/-- An error that ends a run before there is any output. -/
def Outcome.failed (message : Text) : Outcome := ⟨1, [], "error: " ++ message ++ "\n"⟩

/-- A report instead of an output. -/
def Outcome.reported (passed : Bool) (report : Text) : Outcome :=
  ⟨if passed then 0 else 1, [], report⟩

/-- The lines of a note on a diagnostic. -/
def noteLine (note : Text) : Text := "  = " ++ note ++ "\n"

/-- A diagnostic about a file with its line. -/
def diagnosticLines (file source : Text) (d : Diagnostic) : Text :=
  "warning: " ++ d.message ++ "\n  --> " ++ file ++ ":"
    ++ Text.ofNat (source.lineOfOffset d.label.range.start) ++ ": " ++ d.label.message ++ "\n"
    ++ d.notes.flatMap noteLine

/-- A JSON value on lines of its own. -/
def jsonLines (value : Json) : Text := value.render ++ "\n"

/-- The text of a file that a command names. -/
def readSource (tree : FileTree) (file : Text) : Except Text Text :=
  (tree.readText file).mapError fun e => "cannot read \x27" ++ file ++ "\x27: " ++ e.message

/-- The indexes of a corpus, or of the configured one. -/
def loadIndexes (tree : FileTree) (config : Config) (corpus : Option Text) :
    Except Text Indexes :=
  (Indexes.load tree (corpus.or config.corpus) config.sourceExtensions).mapError
    CorpusError.message

/-- Renders a document as text, or as JSON with the annotations of its code blocks. -/
def render (tree : FileTree) (config : Config) (r : Rendering) : Except Text Outcome := do
  let source ← readSource tree r.file
  let indexes ← loadIndexes tree config r.corpus
  let options := { config.pipeline with
    projectRoot := r.projectRoot.getD config.pipeline.projectRoot
    stripDocstrings := r.stripDocstrings || config.pipeline.stripDocstrings }
  let sources ← (indexes.sources tree options).mapError OptionsError.message
  let (document, unknown) := Markdown.read source
  let result := transform sources source document
  let diagnostics := unknown.map (·.toDiagnostic 0) ++ result.warnings.map (·.toDiagnostic 0)
  let annotations := annotateCodeBlocks indexes.symbols result.document
  let output :=
    if r.json then
      jsonLines (.record [("document", Document.toJson result.document),
        ("annotations", .ofList BlockAnnotations.toJson annotations)])
    else Document.render result.document
  return ⟨0, output, diagnostics.flatMap (diagnosticLines r.file source)⟩

/-- Prints one of the indexes of a corpus. -/
def printIndex (tree : FileTree) (config : Config) (corpus : Option Text) (solutions : Bool) :
    Except Text Outcome := do
  let indexes ← loadIndexes tree config corpus
  let value := if solutions then indexes.solutions.toJson else indexes.symbols.toJson
  return .printed (jsonLines value)

/-- Prints the code of a symbol. -/
def printSymbol (tree : FileTree) (file symbol : Text) (stripDocstring : Bool) :
    Except Text Outcome := do
  let source ← readSource tree file
  let code := extractSymbol source symbol stripDocstring
  if code.isEmpty then throw ("symbol `" ++ symbol ++ "` not found in " ++ file)
  else return .printed code

/-- Prints the decorations of a code file. -/
def printDecorations (tree : FileTree) (config : Config) (file : Text) (corpus : Option Text) :
    Except Text Outcome := do
  let code ← readSource tree file
  let indexes ← loadIndexes tree config corpus
  return .printed (jsonLines (.ofList Decoration.toJson (annotate code indexes.symbols)))

/-- Tests fixtures, or lists their categories. -/
def test (tree : FileTree) (config : Config) (colored : Bool) (path : Text)
    (categories : List Text) (listCategories : Bool) : Outcome :=
  if listCategories then .reported true (Report.categories tree path)
  else
    let report := Report.ofPath tree config colored path categories
    .reported report.passed report.text

/-- Runs an action. -/
def Action.run (tree : FileTree) (config : Config) (colored : Bool) :
    Action → Except Text Outcome
  | .render rendering => Command.render tree config rendering
  | .index corpus solutions => printIndex tree config corpus solutions
  | .extract file symbol stripDocstring => printSymbol tree file symbol stripDocstring
  | .annotate file corpus => printDecorations tree config file corpus
  | .test path categories listCategories =>
    .ok (Command.test tree config colored path categories listCategories)

/-- Runs an invocation.  The configuration comes first, whether the action needs it or not. -/
def Invocation.run (tree : FileTree) (invocation : Invocation) : Except Text Outcome := do
  let config ← (Config.load tree invocation.config).mapError ConfigError.message
  invocation.action.run tree config invocation.colored

/-- How the program is used. -/
def usage : Text :=
  "Usage: codedoc [OPTIONS] COMMAND

Commands:
  [render] FILE [--json] [--corpus DIR] [--project-root DIR] [--strip-docstrings]
  index [--corpus DIR] [--solutions]
  extract FILE SYMBOL [--strip-docstring]
  annotate FILE [--corpus DIR]
  test PATH [-c, --category NAME]... [--list-categories]

Options:
  --no-color, -v, --verbose, --config FILE, -h, --help, -V, --version
"

/-- The name and the version of the program. -/
def versionLine : Text := "codedoc 0.1.0\n"

/-- Runs the program on its arguments. -/
def run (tree : FileTree) (args : List Text) : Outcome :=
  match Invocation.ofArguments args with
  | .error .misuse => ⟨2, [], usage⟩
  | .error .help => .printed usage
  | .error .version => .printed versionLine
  | .ok invocation =>
    match invocation.run tree with
    | .ok outcome => outcome
    | .error message => .failed message

end Weave.Command
