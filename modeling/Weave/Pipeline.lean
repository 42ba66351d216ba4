import Weave.Enumeration.Components
import Weave.Fence.Resolve
import Weave.Section.Wrap
import Weave.Symbol.Annotate

/-!
# Pipeline

The passes over a document: fences are resolved, lists become components, and sections are wrapped,
in this order.  The code blocks of the result can be annotated.
-/

namespace Weave

/-- A document after the passes, with the warnings about its fences. -/
structure Transformed where
  document : Document
  warnings : List Warning
  deriving Repr, Inhabited

/-- Runs the passes over a document that was read from `source`. -/
def transform (sources : CodeSources) (source : Text) (document : Document) : Transformed :=
  let (nodes, state) := resolveAll sources .initial document
  let options := sources.options
  ⟨wrapSections options.sectionLevels options.tocTitle (restructureLists source nodes),
    state.warnings⟩

/-- The decorations of one code block. -/
structure BlockAnnotations where
  span : ByteRange
  language : Option Text
  decorations : List Decoration
  deriving DecidableEq, Repr, Inhabited

mutual

/-- The code blocks of a node, in document order. -/
def Node.codeBlocks : Node → List CodeBlock
  | .codeBlock b => [b]
  | .list ⟨_, _, items, _⟩ => itemCodeBlocks items
  | .blockquote children => allCodeBlocks children
  | .component ⟨_, _, children⟩ => allCodeBlocks children
  | _ => []

/-- The code blocks of some nodes, in document order. -/
def allCodeBlocks : List Node → List CodeBlock
  | [] => []
  | n :: ns => n.codeBlocks ++ allCodeBlocks ns

/-- The code blocks of list items, in document order. -/
def itemCodeBlocks : List ListItem → List CodeBlock
  | [] => []
  | ⟨children, _, _⟩ :: items => allCodeBlocks children ++ itemCodeBlocks items

end

/-- The annotations of every code block of a document, in document order. -/
def annotateCodeBlocks (index : SymbolIndex) (document : Document) : List BlockAnnotations :=
  (allCodeBlocks document).map fun b => ⟨b.span, b.language, annotate b.content index⟩

end Weave
