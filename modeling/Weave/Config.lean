import Weave.Code.Options
import Weave.File.Tree
import Weave.Toml.Document

/-!
# Configuration

The configuration file names the corpus, the extensions of its files, and the settings of the
passes.  Every entry may be missing, and unknown ones do not matter.  Relative paths start at the
directory of the file.
-/

namespace Weave

/-- The names of the pipeline settings, in the order in which an array gives them. -/
def Options.fieldNames : List Text :=
  ["project_root".toList, "indexed_pattern".toList, "strip_docstrings".toList,
    "section_levels".toList, "toc_title".toList]

/-- The rank of a heading as a value: an integer of eight bits. -/
def levelOf? (v : Toml.Value) : Option Nat :=
  v.integer?.bind fun n => if 0 ≤ n ∧ n < 256 then some n.toNat else none

/-- The pipeline settings of a value. -/
def Options.ofToml? (v : Toml.Value) : Option Options := do
  let standard := Options.standard
  let fields ← v.fields? Options.fieldNames
  return {
    projectRoot := ← fields.fieldOr? "project_root" standard.projectRoot Toml.Value.string?
    indexedPattern := ← fields.fieldOr? "indexed_pattern" standard.indexedPattern Toml.Value.string?
    stripDocstrings :=
      ← fields.fieldOr? "strip_docstrings" standard.stripDocstrings Toml.Value.boolean?
    sectionLevels :=
      ← fields.fieldOr? "section_levels" standard.sectionLevels (Toml.Value.listOf? levelOf?)
    tocTitle := ← fields.fieldOr? "toc_title" standard.tocTitle Toml.Value.string? }

/-- The content of a configuration file. -/
structure Config where
  /-- The directory of the corpus. -/
  corpus : Option Text
  /-- The extensions of the files that belong to the corpus. -/
  sourceExtensions : List Text
  pipeline : Options
  deriving DecidableEq, Repr, Inhabited

/-- Why a configuration could not be loaded. -/
inductive ConfigError where
  | unreadable (path : Text) (reason : ReadError)
  | malformed (path : Text)
  deriving DecidableEq, Repr, Inhabited

/-- The message of an error. -/
def ConfigError.message : ConfigError → Text
  | unreadable path reason => "cannot read \x27" ++ path ++ "\x27: " ++ reason.message
  | malformed path => "invalid config \x27" ++ path ++ "\x27: TOML parse error"

namespace Config

/-- The configuration without a file. -/
def standard : Config := ⟨none, ["py".toList], .standard⟩

/-- The configuration in a text, its paths joined to a base directory. -/
def ofToml? (base t : Text) : Option Config := do
  let entries ← Toml.read? t
  let corpus ← entries.field? "corpus" Toml.Value.string?
  let sourceExtensions ←
    entries.fieldOr? "source_extensions" standard.sourceExtensions
      (Toml.Value.listOf? Toml.Value.string?)
  let pipeline ← entries.fieldOr? "pipeline" standard.pipeline Options.ofToml?
  return {
    corpus := corpus.map (Path.join base)
    sourceExtensions
    pipeline := { pipeline with projectRoot := Path.join base pipeline.projectRoot } }

/-- The configuration of a file; without the file it is the standard one. -/
def load (tree : FileTree) (path : Text) : Except ConfigError Config :=
  match tree.readText path with
  | .error .notFound => .ok standard
  | .error e => .error (.unreadable path e)
  | .ok t =>
    match ofToml? ((Path.parent? path).getD []) t with
    | some config => .ok config
    | none => .error (.malformed path)

end Config

end Weave
