import Weave.File.Tree

/-!
# Walks through file trees

A walk goes through a directory and everything below it by the paths of the entries, in the order of
their names.  It answers where it ends: at what is no directory, and at a directory that is not
listed.  The system refuses long paths, and what has such a path is no directory to a walk.
-/

namespace Weave

/-- The order of steps: by the first ones that differ. -/
def Path.stepsLe : List Text → List Text → Bool
  | [], _ => true
  | _ :: _, [] => false
  | a :: s, b :: t => if a = b then stepsLe s t else Text.le a b

/-- The extension of the file that some steps lead to. -/
def Path.extension? (steps : List Text) : Option Text :=
  steps.getLast?.bind fun name => (splitExtension name).2

/-- Where a walk ends. -/
inductive Visit where
  /-- At what is no directory. -/
  | leaf
  /-- At a directory that is not listed. -/
  | unlisted (reason : ReadError)
  deriving DecidableEq, Repr, Inhabited

namespace FileTree

/-- Where a walk through what a path leads to ends, each time with the steps from there. -/
def walk (tree : FileTree) (path : Text) : List (List Text × Visit) :=
  if _ : tree.isDirectory path = true then
    match tree.list path with
    | .error reason => [([], .unlisted reason)]
    | .ok names =>
      (names.mergeSort fun a b => Text.le a.text b.text).flatMap fun name =>
        (tree.walk (Path.join path name.text)).map fun visit => (name.text :: visit.1, visit.2)
  else [([], .leaf)]
termination_by 4096 - path.byteLength
decreasing_by
  -- The path of an entry is longer than that of its directory, and long paths lead to none.
  obtain ⟨refusal, entries, hlookup⟩ := isDirectory_iff.mp ‹tree.isDirectory path = true›
  have hshort := byteLength_lt_of_lookup hlookup
  have hlonger := Path.byteLength_lt_join path name
  omega

end FileTree

end Weave
