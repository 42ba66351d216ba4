import Weave.Code.Layout
import Weave.Code.Options
import Weave.Document.Node
import Weave.Fence.Locator
import Weave.Fence.Warning
import Weave.File.Tree
import Weave.Pattern.Basic
import Weave.Symbol.Extract
import Weave.Symbol.Index
import Weave.Symbol.Solutions

/-!
# Fence resolution

A fence with a locator is replaced by the code that it names.

* The path matches the indexed pattern and a symbol is named: the symbol's record, if it comes from
  that very file, and otherwise the symbol extracted from the indexed text of the file.
* The path matches the indexed pattern and no symbol is named: the indexed text.
* Any other path is read from the project root, and the symbol, if any, extracted from it.

Files are read once per run: a cache keeps what reading a path gave, also when it failed.  A fence
that nothing resolves stays as it is.
-/

namespace Weave

/-- Where resolved code comes from. -/
inductive Provenance where
  | symbolIndex
  | solutionsIndex
  | file
  deriving DecidableEq, Repr, Inhabited

/-- The written form of a provenance. -/
def Provenance.name : Provenance → Text
  | symbolIndex => "symbol-index"
  | solutionsIndex => "solutions-index"
  | file => "file"

/-- The metadata key of the locator of resolved code. -/
def sourceKey : Text := "source"

/-- The metadata key of the provenance of resolved code. -/
def resolvedKey : Text := "resolved"

/-- What locators are looked up in.  The search gives what the groups of the indexed pattern capture
in a path, if the pattern matches it. -/
structure CodeSources where
  symbols : SymbolIndex
  solutions : SolutionsIndex
  options : Options
  search : Text → Option Pattern.Captures
  tree : FileTree
  deriving Inhabited

/-- What reading gave for the paths read so far.  Paths are compared by their components. -/
structure FileCache where
  entries : List (Path.Components × Except ReadError Text)
  deriving Inhabited

namespace FileCache

/-- Nothing has been read. -/
def empty : FileCache := ⟨[]⟩

/-- What reading a path gave. -/
def get? (cache : FileCache) (path : Text) : Option (Except ReadError Text) :=
  (cache.entries.find? (·.1 == Path.components path)).map (·.2)

/-- Reads a path, unless it has been read. -/
def read (cache : FileCache) (tree : FileTree) (path : Text) :
    Except ReadError Text × FileCache :=
  match cache.get? path with
  | some result => (result, cache)
  | none =>
    let result := tree.readText path
    (result, ⟨(Path.components path, result) :: cache.entries⟩)

end FileCache

namespace CodeSources

/-- The key `group/item/file` of a path that matches the indexed pattern with all three groups. -/
def indexedKey? (sources : CodeSources) (path : Text) : Option Text := do
  let captures ← sources.search path
  let parts ← keyGroups.mapM captures.get?
  return Text.join "/" parts

/-- The code of an indexed path. -/
def lookupIndexed (sources : CodeSources) (key : Text) (locator : Locator) :
    Except WarningKind (Text × Provenance) :=
  match locator.symbol with
  | none =>
    match sources.solutions.get? key with
    | some text => .ok (text, .solutionsIndex)
    | none => .error (.notIndexed locator.path)
  | some symbol =>
    match (sources.symbols.get? symbol).filter (·.file == key) with
    | some record => .ok (record.code, .symbolIndex)
    | none =>
      let code := ((sources.solutions.get? key).map (extractSymbol · symbol false)).getD []
      if code.isEmpty then .error (.symbolNotFound symbol locator.path)
      else .ok (code, .solutionsIndex)

/-- The code that a locator names in the text of its file. -/
def codeIn (locator : Locator) (text : Text) : Except WarningKind (Text × Provenance) :=
  match locator.symbol with
  | none => .ok (text, .file)
  | some symbol =>
    let code := extractSymbol text symbol false
    if code.isEmpty then .error (.symbolNotFound symbol locator.path) else .ok (code, .file)

/-- The code that a locator names. -/
def lookup (sources : CodeSources) (cache : FileCache) (locator : Locator) :
    Except WarningKind (Text × Provenance) × FileCache :=
  match sources.indexedKey? locator.path with
  | some key => (sources.lookupIndexed key locator, cache)
  | none =>
    match cache.read sources.tree (Path.join sources.options.projectRoot locator.path) with
    | (.ok text, cache) => (codeIn locator text, cache)
    | (.error e, cache) => (.error (.unreadableFile locator.path e.message), cache)

/-- Code as it is put into a fence: without its docstring if the options say so, dedented and
normalized. -/
def finish (sources : CodeSources) (code : Text) : Text :=
  Code.normalize (Code.dedent
    (if sources.options.stripDocstrings then Docstring.strip code else code))

/-- A normalized block with resolved code: the locator moves from `file` to `source`. -/
def resolved (sources : CodeSources) (block : CodeBlock) (locator : Locator) (code : Text)
    (provenance : Provenance) : CodeBlock :=
  (({ block with content := sources.finish code }.removeMeta Locator.fileKey).setMeta sourceKey
    locator.render).setMeta resolvedKey provenance.name

end CodeSources

/-- What a resolver has at a moment: the files read and the warnings so far. -/
structure ResolverState where
  cache : FileCache
  warnings : List Warning
  deriving Inhabited

namespace ResolverState

/-- Nothing read and no warning. -/
def initial : ResolverState := ⟨.empty, []⟩

end ResolverState

/-- Resolves a code block.  A block without a locator stays as it is, and so does one whose locator
leads nowhere. -/
def resolveBlock (sources : CodeSources) (state : ResolverState) (block : CodeBlock) :
    CodeBlock × ResolverState :=
  let normalized := Locator.normalize block
  match Locator.of? normalized with
  | none => (block, state)
  | some locator =>
    match sources.lookup state.cache locator with
    | (.ok (code, provenance), cache) =>
      (sources.resolved normalized locator code provenance, { state with cache })
    | (.error kind, cache) =>
      (block, { cache, warnings := state.warnings ++ [⟨kind, block.span⟩] })

mutual

/-- Resolves the fences in a node, in document order. -/
def resolveNode (sources : CodeSources) (state : ResolverState) : Node → Node × ResolverState
  | .codeBlock block =>
    let (block, state) := resolveBlock sources state block
    (.codeBlock block, state)
  | .list ⟨ordered, start, items, span⟩ =>
    let (items, state) := resolveItems sources state items
    (.list ⟨ordered, start, items, span⟩, state)
  | .blockquote children =>
    let (children, state) := resolveAll sources state children
    (.blockquote children, state)
  | .component ⟨name, attributes, children⟩ =>
    let (children, state) := resolveAll sources state children
    (.component ⟨name, attributes, children⟩, state)
  | .paragraph content => (.paragraph content, state)
  | .heading h => (.heading h, state)
  | .table alignments headers rows => (.table alignments headers rows, state)
  | .html html => (.html html, state)
  | .horizontalRule => (.horizontalRule, state)

/-- Resolves the fences in some nodes, in document order. -/
def resolveAll (sources : CodeSources) (state : ResolverState) :
    List Node → List Node × ResolverState
  | [] => ([], state)
  | n :: ns =>
    let (n, state) := resolveNode sources state n
    let (ns, state) := resolveAll sources state ns
    (n :: ns, state)

/-- Resolves the fences in list items, in document order. -/
def resolveItems (sources : CodeSources) (state : ResolverState) :
    List ListItem → List ListItem × ResolverState
  | [] => ([], state)
  | ⟨children, variant, span⟩ :: items =>
    let (children, state) := resolveAll sources state children
    let (items, state) := resolveItems sources state items
    (⟨children, variant, span⟩ :: items, state)

end

end Weave
