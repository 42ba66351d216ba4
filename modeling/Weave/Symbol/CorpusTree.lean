import Weave.File.Walk
import Weave.Symbol.Corpus

/-!
# Corpora in file trees

A corpus is read from a directory on a walk through it.  The files are taken by their extensions.
The first of them that gives no text ends the reading, and so does a directory that is not listed.
-/

namespace Weave

/-- Why a corpus could not be read. -/
inductive CorpusError where
  | notADirectory (root : Text)
  | unreadable (path : Text) (reason : ReadError)
  | notText (path : Text)
  deriving DecidableEq, Repr, Inhabited

/-- The message of an error. -/
def CorpusError.message : CorpusError → Text
  | notADirectory root => "corpus root is not a directory: " ++ root
  | unreadable path reason => "cannot read " ++ path ++ ": " ++ reason.message
  | notText path => "source file is not valid UTF-8: " ++ path

/-- The error of a file that could not be read as a text. -/
def CorpusError.ofReadError (path : Text) : ReadError → CorpusError
  | .notText => .notText path
  | reason => .unreadable path reason

namespace Corpus

/-- Whether a corpus of files with some extensions depends on where a walk ended. -/
def isWanted (extensions : List Text) (visit : List Text × Visit) : Bool :=
  match visit.2 with
  | .unlisted _ => true
  | .leaf => (Path.extension? visit.1).any fun extension => extensions.contains extension

/-- The file of the corpus at the end of a walk below `root`. -/
def readVisit (tree : FileTree) (root : Text) (visit : List Text × Visit) :
    Except CorpusError SourceFile :=
  let path := Path.below root visit.1
  match visit.2 with
  | .unlisted reason => .error (.unreadable path reason)
  | .leaf =>
    match tree.readText path with
    | .ok text => .ok ⟨Text.join "/" visit.1, text⟩
    | .error reason => .error (.ofReadError path reason)

/-- The corpus of the files below `root` that have one of the extensions. -/
def load (tree : FileTree) (root : Text) (extensions : List Text) : Except CorpusError Corpus :=
  if tree.isDirectory root then do
    let files ← ((tree.walk root).filter (isWanted extensions)).mapM (readVisit tree root)
    return ofFiles files
  else .error (.notADirectory root)

end Corpus

end Weave
