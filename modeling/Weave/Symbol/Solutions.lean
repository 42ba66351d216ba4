import Weave.Symbol.Corpus

/-!
# Solutions index

The files of a corpus whose path has exactly three parts, `group/item/file`, with their whole
texts.  The keys are kept in ascending order; a later text replaces an earlier one.
-/

namespace Weave

/-- Texts by key, in ascending order of the keys. -/
structure SolutionsIndex where
  entries : List (Text × Text)
  deriving DecidableEq, Repr, Inhabited

namespace SolutionsIndex

/-- No entry. -/
def empty : SolutionsIndex := ⟨[]⟩

/-- The entries with a text under `key`, in the place that the order gives it. -/
def insertEntry (key text : Text) : List (Text × Text) → List (Text × Text)
  | [] => [(key, text)]
  | (k, t) :: entries =>
    if k = key then (key, text) :: entries
    else if Text.le key k then (key, text) :: (k, t) :: entries
    else (k, t) :: insertEntry key text entries

/-- Puts a text under a key. -/
def insert (index : SolutionsIndex) (key text : Text) : SolutionsIndex :=
  ⟨insertEntry key text index.entries⟩

/-- The text under a key. -/
def get? (index : SolutionsIndex) (key : Text) : Option Text :=
  (index.entries.find? (·.1 == key)).map (·.2)

/-- The keys in ascending order. -/
def keys (index : SolutionsIndex) : List Text := index.entries.map (·.1)

/-- The number of entries. -/
def size (index : SolutionsIndex) : Nat := index.entries.length

/-- Whether there is no entry. -/
def isEmpty (index : SolutionsIndex) : Bool := index.entries.isEmpty

/-- Whether a path has three parts. -/
def isKey (path : Text) : Bool := (path.splitOn '/').length == 3

/-- The index of a corpus. -/
def ofCorpus (corpus : Corpus) : SolutionsIndex :=
  (corpus.files.filter (isKey ·.path)).foldl (fun index file => index.insert file.path file.text)
    empty

end SolutionsIndex

end Weave
