import Weave.Command.Run

/-!
# The program

A run sees a snapshot of files: the working directory, what the arguments name, and what the
configuration names.  The snapshot and the arguments determine what is printed.
-/

namespace Weave.Main

/-- Directories further down than this are not read. -/
def depthLimit : Nat := 64

/-- The file or directory at a path.  What cannot be read counts as a file without permission, and
a directory that cannot be listed as one without entries. -/
def readNode (path : String) : Nat → IO FileNode
  | 0 => return .file (.error .permissionDenied)
  | depth + 1 => do
    let place := System.mkFilePath [path]
    try
      if ← place.isDir then
        try
          let entries ← (← place.readDir).toList.mapM fun entry => do
            return (entry.fileName.toList, ← readNode (path ++ "/" ++ entry.fileName) depth)
          return .directory none entries
        catch _ => return .directory (some .permissionDenied) []
      else
        let bytes ← IO.FS.readBinFile path
        match String.fromUTF8? bytes with
        | some t => return .file (.ok t.toList)
        | none => return .file (.error .notText)
    catch _ => return .file (.error .permissionDenied)

/-- The tree with what a path leads to, if there is something outside the working directory. -/
def addPlace (tree : FileTree) (path : Text) : IO FileTree := do
  try
    let real := (← IO.FS.realPath (String.ofList path)).toString
    let steps := Path.steps real.toList
    if !(← (System.mkFilePath [real]).pathExists) ∨ tree.workingDirectory.isPrefixOf steps then
      return tree
    else return { tree with root := FileNode.put (← readNode real depthLimit) steps tree.root }
  catch _ => return tree

/-- The working directory. -/
def readWorkingDirectory : IO FileTree := do
  let path := (← IO.currentDir).toString
  let steps := Path.steps path.toList
  return ⟨FileNode.put (← readNode path depthLimit) steps (.directory none []), steps⟩

/-- The paths that the configuration names. -/
def configuredPaths (tree : FileTree) (args : List Text) : List Text :=
  match Command.Invocation.ofArguments args with
  | .error _ => []
  | .ok invocation =>
    match Config.load tree invocation.config with
    | .error _ => []
    | .ok config => config.corpus.toList ++ [config.pipeline.projectRoot]

end Weave.Main

/-- Runs the program. -/
def main (args : List String) : IO UInt32 := do
  let args := args.map String.toList
  let tree ← args.foldlM Weave.Main.addPlace (← Weave.Main.readWorkingDirectory)
  let tree ← (Weave.Main.configuredPaths tree args).foldlM Weave.Main.addPlace tree
  let outcome := Weave.Command.run tree args
  IO.print (String.ofList outcome.output)
  IO.eprint (String.ofList outcome.errors)
  return outcome.exitCode.toUInt32
