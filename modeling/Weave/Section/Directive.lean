import Weave.Document.Inline
import Weave.Document.Names
import Weave.Text.Space

/-!
# Heading directives

A heading may begin with a directive that says how its section is shown: `[!collapsible]`,
`[!collapsible:expand]`, `[!(Name)]`, `[!collapsible(Name)]` or `[!collapsible:expand(Name)]`.
Anything else in brackets is ordinary text.
-/

namespace Weave

/-- How a section is shown.  A name is the base of the section's components. -/
structure Directive where
  collapsible : Bool
  expanded : Bool
  name : Option Text
  deriving DecidableEq, Repr, Inhabited

namespace Directive

/-- No directive. -/
def plain : Directive := ⟨false, false, none⟩

/-- The base of the component names. -/
def base (d : Directive) : Text :=
  match d.name with
  | some name => name
  | none => if d.collapsible then Names.collapsible else Names.plainSection

/-- A prefix that may be absent: whether it stood there, and the rest. -/
def optional (word t : Text) : Bool × Text :=
  match Text.dropPrefix? word t with
  | some rest => (true, rest)
  | none => (false, t)

/-- A name in parentheses, an ASCII capital and then ASCII letters and digits, and the rest. -/
def parenthesized? (t : Text) : Option (Text × Text) :=
  match t with
  | '(' :: c :: rest =>
    if c.isUpper then
      match rest.dropWhile Char.isAlphanum with
      | ')' :: after => some (c :: rest.takeWhile Char.isAlphanum, after)
      | _ => none
    else none
  | _ => none

/-- A directive at the start of a text, and what follows it and the white space after it. -/
def split? (t : Text) : Option (Directive × Text) := do
  let t ← Text.dropPrefix? "[!" t.trimStart
  let (collapsible, t) := optional "collapsible" t
  let (expanded, t) := if collapsible then optional ":expand" t else (false, t)
  let (name, t) :=
    match parenthesized? t with
    | some (name, t) => (some name, t)
    | none => (none, t)
  let t ← Text.dropPrefix? "]" t
  if collapsible || name.isSome then some (⟨collapsible, expanded, name⟩, t.trimStart) else none

/-- A directive at the start of a text with the number of bytes up to what follows it. -/
def parse? (t : Text) : Option (Directive × Nat) :=
  (split? t).map fun (d, rest) => (d, t.byteLength - rest.byteLength)

/-- Removes a directive from the start of a heading's content. -/
def take (content : List Inline) : Directive × List Inline :=
  match content with
  | .text t :: rest =>
    match split? t with
    | some (d, []) => (d, rest)
    | some (d, kept) => (d, .text kept :: rest)
    | none => (plain, content)
  | _ => (plain, content)

end Directive

end Weave
