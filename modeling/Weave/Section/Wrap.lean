import Weave.Document.Names
import Weave.Section.Directive
import Weave.Section.Slug

/-!
# Sections

A heading and the nodes that it governs become one component with a header and a content, stamped
with the rank of the heading.  The headings are found first, with their places among the nodes, and
then wrapped from the last to the first, so that a nested section is one component by the time its
parent captures its content.  A section ends before a heading or a section of its rank or a higher
one, and before a table of contents.
-/

namespace Weave

/-- A heading that opens a section, with its place among the nodes, its directive taken off and an
id. -/
structure SectionTarget where
  index : Nat
  directive : Directive
  heading : Heading
  deriving Repr, BEq, Inhabited

/-- Whether a node ends a section of the given rank. -/
def endsSection (rank : Nat) : Node → Bool
  | .heading h => h.level ≤ rank
  | .component c =>
    c.is Names.tableOfContents
      || ((c.attribute? Names.depthAttribute).bind AttrValue.integer?).any (· ≤ (rank : Int))
  | _ => false

/-- One past the last node that a section of a rank captures from an index on. -/
def captureEnd (nodes : List Node) (rank start : Nat) : Nat :=
  start + (nodes.drop start).findIdx (endsSection rank)

/-- The component of a section. -/
def SectionTarget.component (target : SectionTarget) (content : List Node) : Component :=
  let d := target.directive
  let header := (Component.named (Names.headerOf d.base)).withChildren [.heading target.heading]
  let body := (Component.named (Names.contentOf d.base)).withChildren content
  let depth : Attribute := ⟨Names.depthAttribute, .integer target.heading.level⟩
  let collapsible : List Attribute :=
    if d.name.isSome && d.collapsible then [⟨Names.collapsibleAttribute, .boolean true⟩] else []
  let expanded : List Attribute :=
    if d.collapsible && d.expanded then [⟨Names.defaultExpandedAttribute, .boolean true⟩] else []
  ⟨d.base, depth :: (collapsible ++ expanded), [.component header, .component body]⟩

/-- Whether a heading's text is the title of the table of contents, in any case. -/
def isTocTitle (tocTitle text : Text) : Bool := text.trim.lowercase == tocTitle.trim.lowercase

/-- The target that a node at an index is, with the ids used so far.  Headings of other ranks and
the title of the table of contents are none. -/
def sectionTarget? (levels : List Nat) (tocTitle : Text) (slugs : Slugger) (index : Nat) :
    Node → Option SectionTarget × Slugger
  | .heading h =>
    if h.level ∈ levels then
      let (directive, content) := Directive.take h.content
      let text := Inline.plainTextOf content
      if isTocTitle tocTitle text then (none, slugs)
      else
        match h.id with
        | some _ => (some ⟨index, directive, { h with content }⟩, slugs)
        | none =>
          let (slug, slugs) := slugs.slug text
          (some ⟨index, directive, { h with content, id := some slug }⟩, slugs)
    else (none, slugs)
  | _ => (none, slugs)

/-- The targets among nodes that stand from an index on, in order. -/
def sectionTargets (levels : List Nat) (tocTitle : Text) (slugs : Slugger) (index : Nat) :
    List Node → List SectionTarget
  | [] => []
  | n :: ns =>
    let (target, slugs) := sectionTarget? levels tocTitle slugs index n
    target.toList ++ sectionTargets levels tocTitle slugs (index + 1) ns

/-- Puts the section of a target in the place of its heading and of the nodes that it captures. -/
def wrapTarget (target : SectionTarget) (nodes : List Node) : List Node :=
  let stop := captureEnd nodes target.heading.level (target.index + 1)
  let content := (nodes.take stop).drop (target.index + 1)
  nodes.take target.index ++ .component (target.component content) :: nodes.drop stop

/-- The ids that authors gave to the headings among some nodes. -/
def authoredIds (nodes : List Node) : List Text :=
  nodes.filterMap fun n => n.heading?.bind (·.id)

/-- The nodes with the headings of the given ranks wrapped into sections. -/
def wrapSections (levels : List Nat) (tocTitle : Text) (nodes : List Node) : List Node :=
  let slugs := (authoredIds nodes).foldl Slugger.reserve Slugger.empty
  (sectionTargets levels tocTitle slugs 0 nodes).foldr wrapTarget nodes

end Weave
