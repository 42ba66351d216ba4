import Weave.Config
import Weave.Document.Render
import Weave.Fixture.FrontMatter
import Weave.Markdown.Read
import Weave.Pipeline
import Weave.Sources

/-!
# Checking fixtures

A fixture passes when its document can be rendered, and its rendering and its warnings are what the
front matter expects.  Otherwise the first thing that went wrong is its failure.
-/

namespace Weave

/-- A warning of the reader or of the passes, as far as fixtures look at it. -/
structure Reported where
  message : Text
  span : ByteRange
  deriving DecidableEq, Repr, Inhabited

/-- Why a fixture failed. -/
inductive Failure where
  | unreadable (reason : ReadError)
  | frontMatter (reason : FrontMatterError)
  | corpus (reason : CorpusError)
  | options (reason : OptionsError)
  | output (expected actual : Text)
  | notContained (expected actual : Text)
  | warningCount (expected : Nat) (actual : List Text)
  | warningMessage (index : Nat) (expected actual : Text)
  | warningLine (index expected actual : Nat)
  deriving DecidableEq, Repr, Inhabited

/-- The lines of a text behind four spaces each, without a line ending at the end. -/
def indentLines (t : Text) : Text := Text.join "\n" (t.lines.map ("    " ++ ·))

/-- The messages of some warnings as a list. -/
def listWarnings (messages : List Text) : Text :=
  if messages.isEmpty then "    (none)" else Text.join "\n" (messages.map ("  - " ++ ·))

/-- The message of a failure; it may have several lines. -/
def Failure.message : Failure → Text
  | unreadable reason => "cannot read file: " ++ reason.message
  | frontMatter reason => "front matter error: " ++ reason.message
  | corpus reason => "corpus error: " ++ reason.message
  | options reason => "pipeline error: " ++ reason.message
  | output expected actual =>
    "output mismatch\n  expected:\n" ++ indentLines expected ++ "\n  actual:\n"
      ++ indentLines actual
  | notContained expected actual =>
    "output does not contain \"" ++ expected ++ "\"\n  actual:\n" ++ indentLines actual
  | warningCount expected actual =>
    "expected " ++ Text.ofNat expected ++ " warning(s), got " ++ Text.ofNat actual.length
      ++ "\n  actual warnings:\n" ++ listWarnings actual
  | warningMessage index expected actual =>
    "warning[" ++ Text.ofNat index ++ "]: expected message containing \"" ++ expected
      ++ "\", got: " ++ actual
  | warningLine index expected actual =>
    "warning[" ++ Text.ofNat index ++ "]: expected on line " ++ Text.ofNat expected
      ++ ", but span is on line " ++ Text.ofNat actual

namespace Expectations

/-- What is wrong with a rendering. -/
def outputFailure? (e : Expectations) (rendered : Text) : Option Failure :=
  let actual := rendered.trim
  let mismatch := e.output.bind fun expected =>
    if expected.trim = actual then none else some (Failure.output expected.trim actual)
  mismatch.or ((e.contained.find? fun expected => !rendered.contains expected).map
    (Failure.notContained · actual))

/-- What is wrong with the warnings from `index` on. -/
def warningFailureFrom? (source : Text) (index : Nat) :
    List ExpectedWarning → List Reported → Option Failure
  | e :: expected, r :: reported =>
    let line := source.lineOfOffset r.span.start
    if !r.message.contains e.message then some (.warningMessage index e.message r.message)
    else
      match e.line with
      | some n =>
        if n = line then warningFailureFrom? source (index + 1) expected reported
        else some (.warningLine index n line)
      | none => warningFailureFrom? source (index + 1) expected reported
  | _, _ => none

/-- What is wrong with the warnings about a document. -/
def warningFailure? (e : Expectations) (source : Text) (reported : List Reported) :
    Option Failure :=
  e.warnings.bind fun expected =>
    if expected.length = reported.length then warningFailureFrom? source 0 expected reported
    else some (.warningCount expected.length (reported.map (·.message)))

end Expectations

/-- What came of a fixture: its description, if its front matter could be read, and its failure. -/
structure Verdict where
  path : Text
  description : Option Text
  failure : Option Failure
  deriving DecidableEq, Repr, Inhabited

/-- The name of a verdict in a report: the description, or else the file name without its
extension. -/
def Verdict.label (v : Verdict) : Text :=
  match v.description, Path.fileName? v.path with
  | some description, _ => description
  | none, some name => (Path.splitExtension name).1
  | none, none => "?"

namespace Fixture

/-- The rendering of a fixture's document, and the warnings about it. -/
def render (fixture : Fixture) (sources : CodeSources) : Text × List Reported :=
  let (document, unknown) := Markdown.read fixture.source
  let result := transform sources fixture.source document
  (Document.render result.document,
    unknown.map (fun w => ⟨w.message, w.span⟩)
      ++ result.warnings.map fun w => ⟨w.kind.message, w.span⟩)

/-- The sources for the fixture at a path. -/
def sources (fixture : Fixture) (tree : FileTree) (config : Config) (path : Text) :
    Except Failure CodeSources := do
  let directory := (Path.parent? path).getD "."
  let corpus := fixture.expectations.corpus.map (Path.join directory)
  let indexes ← (Indexes.load tree corpus config.sourceExtensions).mapError Failure.corpus
  let options := { config.pipeline with
    projectRoot := directory
    stripDocstrings := fixture.expectations.stripDocstrings || config.pipeline.stripDocstrings }
  (indexes.sources tree options).mapError Failure.options

/-- The description of the fixture at a path, and what is wrong with the fixture. -/
def evaluate (tree : FileTree) (config : Config) (path : Text) :
    Except Failure (Option Text × Option Failure) := do
  let t ← (tree.readText path).mapError Failure.unreadable
  let fixture ← (Fixture.ofText t).mapError Failure.frontMatter
  let sources ← fixture.sources tree config path
  let (rendered, reported) := fixture.render sources
  let expectations := fixture.expectations
  return (expectations.description,
    (expectations.outputFailure? rendered).or
      (expectations.warningFailure? fixture.source reported))

/-- The verdict on the fixture at a path. -/
def check (tree : FileTree) (config : Config) (path : Text) : Verdict :=
  match evaluate tree config path with
  | .ok (description, failure) => ⟨path, description, failure⟩
  | .error failure => ⟨path, none, some failure⟩

end Fixture

end Weave
