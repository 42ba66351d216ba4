import Weave.Pattern.Parse

/-!
# Pipeline options

The settings of the passes over a document.  Before any document is touched the pattern of indexed
paths is read, and it must name the three groups that make up a key.
-/

namespace Weave

/-- The settings of the passes. -/
structure Options where
  /-- The base of the fence paths that are not indexed. -/
  projectRoot : Text
  /-- The pattern of indexed paths, with groups for `group`, `item` and `file`. -/
  indexedPattern : Text
  /-- Whether resolved code loses its docstring. -/
  stripDocstrings : Bool
  /-- The ranks of the headings that open sections. -/
  sectionLevels : List Nat
  /-- The title, in any case, of the heading that is never wrapped. -/
  tocTitle : Text
  deriving DecidableEq, Repr, Inhabited

/-- The pattern of indexed paths that holds unless another one is set. -/
def defaultIndexedPattern : Text :=
  "^solutions/(?P<group>[^/]+)/(?P<item>[^/]+)/(?P<file>[^/]+)$"

/-- The settings that hold unless others are set. -/
def Options.standard : Options where
  projectRoot := "."
  indexedPattern := defaultIndexedPattern
  stripDocstrings := false
  sectionLevels := [2, 3]
  tocTitle := "Table of Contents"

/-- What can be wrong with the pattern of indexed paths. -/
inductive OptionsError where
  | invalidPattern (pattern : Text)
  | missingGroup (pattern name : Text)
  deriving DecidableEq, Repr, Inhabited

/-- The message of an error. -/
def OptionsError.message : OptionsError → Text
  | invalidPattern pattern => "invalid indexed path pattern `" ++ pattern ++ "`"
  | missingGroup pattern name =>
    "indexed path pattern `" ++ pattern ++ "` has no `" ++ name ++ "` capture group"

/-- The groups that make up the key of an indexed path. -/
def keyGroups : List Text := ["group".toList, "item".toList, "file".toList]

/-- The pattern of indexed paths, if it is one and has the groups of a key. -/
def Options.pattern (options : Options) : Except OptionsError Pattern :=
  match Pattern.parse? options.indexedPattern with
  | none => .error (.invalidPattern options.indexedPattern)
  | some p =>
    match keyGroups.find? fun name => !p.groupNames.contains name with
    | some name => .error (.missingGroup options.indexedPattern name)
    | none => .ok p

end Weave
