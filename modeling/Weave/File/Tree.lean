import Weave.File.Path

/-!
# File trees

A snapshot of files and directories.  A file holds a text, bytes that are no text, or what the
system does not let be read; what may not even be looked at is such a file.  A directory may be one
that the system does not list, though it lets paths through.  Look-ups follow a path step by step,
as the system does: every step but the last must lead to a directory, and so must the last one when
a slash or a dot follows it.
-/

namespace Weave

/-- The ways in which reading a file fails. -/
inductive ReadError where
  | notFound
  | notADirectory
  | isADirectory
  | nameTooLong
  | nulInName
  | permissionDenied
  | notText
  deriving DecidableEq, Repr, Inhabited

/-- The system's message. -/
def ReadError.message : ReadError → Text
  | notFound => "No such file or directory (os error 2)"
  | notADirectory => "Not a directory (os error 20)"
  | isADirectory => "Is a directory (os error 21)"
  | nameTooLong => "File name too long (os error 36)"
  | nulInName => "file name contained an unexpected NUL byte"
  | permissionDenied => "Permission denied (os error 13)"
  | notText => "stream did not contain valid UTF-8"

/-- A file or a directory.  A file is what reading it gives: its text, or the error.  A directory
may have a reason why it is not listed. -/
inductive FileNode where
  | file (content : Except ReadError Text)
  | directory (refusal : Option ReadError) (entries : List (Text × FileNode))
  deriving Repr, Inhabited

/-- A tree of files from the root, and the steps to the working directory. -/
structure FileTree where
  root : FileNode
  workingDirectory : List Text
  deriving Repr, Inhabited

namespace FileNode

/-- The node under a name in some entries. -/
def entry? (name : Text) (entries : List (Text × FileNode)) : Option FileNode :=
  (entries.find? (·.1 == name)).map (·.2)

/-- The names in a directory, each once.  An entry under a text that is no name has none. -/
def names : List (Text × FileNode) → List Path.Name
  | [] => []
  | (t, _) :: entries =>
    match Path.Name.of? t with
    | some name => (names entries).insert name
    | none => names entries

/-- Follows the parts of a path from a node; `above` holds the directories on the way to it, the
innermost first.  Empty parts and dots stay in a directory, and two dots go up. -/
def follow (above : List FileNode) (node : FileNode) : List Text → Except ReadError FileNode
  | [] => .ok node
  | part :: parts =>
    match node with
    | file _ => .error .notADirectory
    | directory _ entries =>
      if part.isEmpty ∨ part = "." then follow above node parts
      else if part = ".." then
        match above with
        | [] => follow [] node parts
        | up :: above => follow above up parts
      else if 255 < part.byteLength then .error .nameTooLong
      else
        match entry? part entries with
        | none => .error .notFound
        | some next => follow (node :: above) next parts

mutual

/-- The node with another one put at the end of some steps; directories on the way are made. -/
def put (new : FileNode) : List Text → FileNode → FileNode
  | [], _ => new
  | step :: steps, directory refusal entries => directory refusal (putEntry new step steps entries)
  | step :: steps, file _ => directory none (putEntry new step steps [])
termination_by steps _ => (steps.length, 0)

/-- The entries with a node put under a name. -/
def putEntry (new : FileNode) (name : Text) (steps : List Text) :
    List (Text × FileNode) → List (Text × FileNode)
  | [] => [(name, put new steps (directory none []))]
  | (n, node) :: entries =>
    if n = name then (n, put new steps node) :: entries
    else (n, node) :: putEntry new name steps entries
termination_by entries => (steps.length, entries.length + 1)

end

/-- The node without what the steps lead to. -/
def remove : List Text → FileNode → FileNode
  | [], node => node
  | [name], directory refusal entries => directory refusal (entries.filter (·.1 != name))
  | step :: steps, directory refusal entries =>
    directory refusal
      (entries.map fun (n, node) => if n = step then (n, remove steps node) else (n, node))
  | _, file content => file content

end FileNode

namespace FileTree

/-- An empty directory as working directory. -/
def empty (workingDirectory : List Text) : FileTree :=
  ⟨FileNode.put (.directory none []) workingDirectory (.directory none []), workingDirectory⟩

/-- What a path leads to. -/
def lookup (tree : FileTree) (path : Text) : Except ReadError FileNode :=
  if path.isEmpty then .error .notFound
  else if '\x00' ∈ path then .error .nulInName
  else if 4096 ≤ path.byteLength then .error .nameTooLong
  else if Path.isAbsolute path then tree.root.follow [] (path.splitOn '/')
  else tree.root.follow [] (tree.workingDirectory ++ path.splitOn '/')

/-- Longer paths are refused. -/
theorem byteLength_lt_of_lookup {tree : FileTree} {path : Text} {node : FileNode}
    (h : tree.lookup path = .ok node) : path.byteLength < 4096 := by
  refine Nat.not_le.mp fun hlong => ?_
  rw [lookup] at h
  split at h
  · contradiction
  · split at h <;> contradiction

/-- The text of the file that a path leads to. -/
def readText (tree : FileTree) (path : Text) : Except ReadError Text :=
  match tree.lookup path with
  | .error e => .error e
  | .ok (.directory ..) => .error .isADirectory
  | .ok (.file content) => content

/-- The names in the directory that a path leads to. -/
def list (tree : FileTree) (path : Text) : Except ReadError (List Path.Name) :=
  match tree.lookup path with
  | .error e => .error e
  | .ok (.file _) => .error .notADirectory
  | .ok (.directory (some reason) _) => .error reason
  | .ok (.directory none entries) => .ok (FileNode.names entries)

/-- Whether a path leads to a directory. -/
def isDirectory (tree : FileTree) (path : Text) : Bool :=
  match tree.lookup path with
  | .ok (.directory ..) => true
  | _ => false

theorem isDirectory_iff {tree : FileTree} {path : Text} :
    tree.isDirectory path = true
      ↔ ∃ refusal entries, tree.lookup path = .ok (.directory refusal entries) := by
  unfold isDirectory
  split
  · rename_i h
    simp [h]
  · rename_i h
    simpa using h

/-- Whether a path leads to a file. -/
def isFile (tree : FileTree) (path : Text) : Bool :=
  match tree.lookup path with
  | .ok (.file _) => true
  | _ => false

/-- The tree with a node put at a path below the working directory. -/
def put (tree : FileTree) (path : Text) (node : FileNode) : FileTree :=
  { tree with root := FileNode.put node (tree.workingDirectory ++ Path.steps path) tree.root }

/-- The tree with a directory at a path below the working directory; one that is there stays. -/
def addDirectory (tree : FileTree) (path : Text) : FileTree :=
  if tree.isDirectory path then tree else tree.put path (.directory none [])

/-- The tree without what a path below the working directory leads to. -/
def remove (tree : FileTree) (path : Text) : FileTree :=
  { tree with root := tree.root.remove (tree.workingDirectory ++ Path.steps path) }

end FileTree

end Weave
