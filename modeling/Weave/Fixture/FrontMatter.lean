import Weave.Text.Lines
import Weave.Toml.Document

/-!
# Fixtures

A fixture is a markdown document with front matter that says what its rendering is expected to be.
The front matter is TOML between two lines of three dashes.
-/

namespace Weave

/-- A warning that a fixture expects. -/
structure ExpectedWarning where
  /-- What its message must contain. -/
  message : Text
  /-- The line on which it must start, from 1. -/
  line : Option Nat
  deriving DecidableEq, Repr, Inhabited

/-- What a fixture says of itself and expects. -/
structure Expectations where
  description : Option Text
  /-- The directory of the corpus, seen from the fixture's own. -/
  corpus : Option Text
  stripDocstrings : Bool
  /-- The whole rendering, but for white space around it. -/
  output : Option Text
  /-- What the rendering must contain. -/
  contained : List Text
  /-- The warnings in their order; when there is no list, any warnings are right. -/
  warnings : Option (List ExpectedWarning)
  deriving DecidableEq, Repr, Inhabited

/-- What can be wrong with the front matter of a fixture. -/
inductive FrontMatterError where
  | unopened
  | unclosed
  | malformed
  deriving DecidableEq, Repr, Inhabited

/-- The message of an error. -/
def FrontMatterError.message : FrontMatterError → Text
  | unopened => "missing opening --- front matter delimiter"
  | unclosed => "missing closing --- front matter delimiter"
  | malformed => "TOML parse error"

/-- A number of a line as a value. -/
def lineOf? (v : Toml.Value) : Option Nat :=
  v.integer?.bind fun n => if 0 ≤ n then some n.toNat else none

/-- An expected warning as a value; the message may not be missing. -/
def ExpectedWarning.ofToml? (v : Toml.Value) : Option ExpectedWarning := do
  let fields ← v.fields? ["contains".toList, "line".toList]
  let message ← (fields.get? "contains").bind Toml.Value.string?
  let line ← fields.field? "line" lineOf?
  return ⟨message, line⟩

/-- The expectations in the entries of a document. -/
def Expectations.ofToml? (entries : Toml.Entries) : Option Expectations := do
  return {
    description := ← entries.field? "description" Toml.Value.string?
    corpus := ← entries.field? "corpus" Toml.Value.string?
    stripDocstrings := ← entries.fieldOr? "strip_docstrings" false Toml.Value.boolean?
    output := ← entries.field? "expect_output" Toml.Value.string?
    contained :=
      ← entries.fieldOr? "expect_contains" [] (Toml.Value.listOf? Toml.Value.string?)
    warnings :=
      ← entries.field? "expect_warnings" (Toml.Value.listOf? ExpectedWarning.ofToml?) }

/-- A fixture by its front matter and its document. -/
structure Fixture where
  expectations : Expectations
  source : Text
  deriving DecidableEq, Repr, Inhabited

/-- The front matter and the document of a text.  The dashes that close the front matter need only
begin a line. -/
def Fixture.split (t : Text) : Except FrontMatterError (Text × Text) :=
  match Text.dropPrefix? "---" (t.dropWhile (· == '\ufeff')) with
  | none => .error .unopened
  | some opened =>
    match Text.splitFirst? "\n---" (Text.dropLineEnding opened) with
    | none => .error .unclosed
    | some (matter, source) => .ok (matter.trimEndWhile (· == '\r'), Text.dropLineEnding source)

/-- The fixture in a text. -/
def Fixture.ofText (t : Text) : Except FrontMatterError Fixture := do
  let (matter, source) ← Fixture.split t
  match (Toml.read? matter).bind Expectations.ofToml? with
  | some expectations => return ⟨expectations, source⟩
  | none => throw .malformed

end Weave
