import Weave.Fence.Resolve
import Weave.Pattern.Search
import Weave.Symbol.CorpusTree

/-!
# Loading of sources

Both indexes are made from one corpus.  Without a corpus they are empty, and every indexed fence
stays as it was written.
-/

namespace Weave

/-- The symbols of a corpus, and its solutions. -/
structure Indexes where
  symbols : SymbolIndex
  solutions : SolutionsIndex
  deriving Inhabited

/-- The indexes of the corpus in a directory, if there is one. -/
def Indexes.load (tree : FileTree) (corpus : Option Text) (extensions : List Text) :
    Except CorpusError Indexes :=
  match corpus with
  | none => .ok ⟨.empty, .empty⟩
  | some root =>
    (Corpus.load tree root extensions).map fun corpus =>
      ⟨SymbolIndex.ofCorpus corpus, SolutionsIndex.ofCorpus corpus⟩

/-- The sources for fences, once the pattern of indexed paths has been read; it is what paths are
searched for. -/
def Indexes.sources (indexes : Indexes) (tree : FileTree) (options : Options) :
    Except OptionsError CodeSources :=
  options.pattern.map fun pattern =>
    ⟨indexes.symbols, indexes.solutions, options, pattern.search, tree⟩

end Weave
