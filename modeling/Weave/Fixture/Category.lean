import Weave.File.Walk

/-!
# Categories of fixtures

The fixtures below a directory fall into categories by the directories they are in.  The category
of a fixture is the path to its directory; fixtures in the root have the empty one.
-/

namespace Weave

/-- The ending of a fixture's file name. -/
def fixtureEnding : Text := ".test.md"

/-- Fixtures of one directory. -/
structure Category where
  name : Text
  /-- The paths of the fixtures. -/
  fixtures : List Text
  deriving DecidableEq, Repr, Inhabited

namespace Category

/-- The name of a category in a report. -/
def label (name : Text) : Text := if name.isEmpty then "(root)" else name

/-- The category of the file that some steps lead to.  A backslash counts as a slash. -/
def nameOf (steps : List Text) : Text := (Text.join "/" steps.dropLast).replace "\\" "/"

/-- Puts a fixture at the end of its category, which is made in its place if it is missing. -/
def insert (name fixture : Text) : List Category → List Category
  | [] => [⟨name, [fixture]⟩]
  | c :: cs =>
    if c.name = name then ⟨name, c.fixtures ++ [fixture]⟩ :: cs
    else if Text.le name c.name then ⟨name, [fixture]⟩ :: c :: cs
    else c :: insert name fixture cs

/-- The steps to the fixtures below a directory, in order. -/
def fixtureSteps (tree : FileTree) (root : Text) : List (List Text) :=
  let fixtures := (tree.walk root).filter fun (steps, visit) =>
    visit = .leaf ∧ (steps.getLast?.getD []).endsWith fixtureEnding
  (fixtures.map (·.1)).mergeSort Path.stepsLe

/-- The categories of the fixtures below a directory, by name, each with its fixtures in order. -/
def discover (tree : FileTree) (root : Text) : List Category :=
  (fixtureSteps tree root).foldl
    (fun categories steps => insert (nameOf steps) (Path.below root steps) categories) []

/-- Whether a request names a category or one that it lies in. -/
def isNamedBy (name request : Text) : Bool := name == request || name.startsWith (request ++ "/")

/-- A request without slashes around it. -/
def trimRequest (request : Text) : Text :=
  Text.trimEndWhile (· == '/') (request.dropWhile (· == '/'))

/-- The requests that add no category to those named before them. -/
def idleRequests (all : List Category) (named : List Text) : List Text → List Text
  | [] => []
  | request :: requests =>
    let fresh := ((all.map (·.name)).filter (isNamedBy · request)).filter fun name =>
      !named.contains name
    if fresh.isEmpty then request :: idleRequests all named requests
    else idleRequests all (named ++ fresh) requests

/-- The categories that some requests name; without a request all of them. -/
def select (all : List Category) (requests : List Text) : List Category :=
  if requests.isEmpty then all else all.filter fun c => requests.any (isNamedBy c.name)

end Category

end Weave
