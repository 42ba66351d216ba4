import Weave.Text.Basic

/-!
# Corpora

The source files from which indexes are built, in the order of their paths.
-/

namespace Weave

/-- A source file; the path is relative to the corpus root, with slashes between its parts. -/
structure SourceFile where
  path : Text
  text : Text
  deriving DecidableEq, Repr, Inhabited

/-- The files of a corpus in path order. -/
structure Corpus where
  files : List SourceFile
  deriving DecidableEq, Repr, Inhabited

namespace Corpus

/-- The corpus of some files; files of equal path keep their order. -/
def ofFiles (files : List SourceFile) : Corpus :=
  ⟨files.mergeSort fun a b => Text.le a.path b.path⟩

/-- The first file with this path. -/
def get? (c : Corpus) (path : Text) : Option SourceFile := c.files.find? (·.path == path)

/-- The number of files. -/
def size (c : Corpus) : Nat := c.files.length

/-- Whether the corpus has no file. -/
def isEmpty (c : Corpus) : Bool := c.files.isEmpty

end Corpus

end Weave
