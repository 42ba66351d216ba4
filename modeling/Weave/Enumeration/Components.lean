import Weave.Document.Names
import Weave.Enumeration.ItemText
import Weave.Enumeration.Numbers

/-!
# Lists as components

Every list of a document becomes an `OrderedList` or `UnorderedList` component with one item
component per item.  The level counts the lists around it; quotes and components do not count.

The numbers of an ordered list are read back from the source, so its items must start at offsets of
whole characters: `fitsSource` says that they do.
-/

namespace Weave

/-- The source line of an item's marker; empty when the offset lies inside a character. -/
def ListItem.markerLine (source : Text) (item : ListItem) : Text :=
  (lineAt? source item.span.start).getD []

/-- The authored ordinals of items. -/
def ordinalsOf (source : Text) (items : List ListItem) : List Ordinal :=
  items.map fun item => Ordinal.ofLine (item.markerLine source)

/-- The numbers of a list's items: those shown in an ordered list, none in an unordered one. -/
def ItemList.numbers (source : Text) (list : ItemList) : List (Option Text) :=
  if list.ordered then (Ordinal.displayNumbers (ordinalsOf source list.items)).map some
  else list.items.map fun _ => none

/-- The children of an item with the number and the colons taken from the first paragraph, and
whether there were colons. -/
def cleanItem : List Node → Bool × List Node
  | .paragraph content :: children =>
    let (isHeader, content) := ItemText.takeColons (ItemText.stripNumber content).2
    (isHeader, .paragraph content :: children)
  | children => (false, children)

/-- The component of an item. -/
def itemComponent (variant number : Option Text) (level : Nat) (children : List Node) :
    Component :=
  let (isHeader, children) := cleanItem children
  let level : Attribute := ⟨Names.levelAttribute, .integer level⟩
  let number := number.toList.map fun n => (⟨Names.numberAttribute, .string n⟩ : Attribute)
  let header : List Attribute :=
    if isHeader then [⟨Names.headerItemAttribute, .boolean true⟩] else []
  ⟨Names.itemComponent variant, level :: (number ++ header), children⟩

/-- The component of a list around its items. -/
def listComponent (ordered : Bool) (level : Nat) (items : List Node) : Component :=
  ⟨if ordered then Names.orderedList else Names.unorderedList,
    [⟨Names.levelAttribute, .integer level⟩], items⟩

mutual

/-- The node with its lists as components; `depth` counts the lists around it. -/
def Node.restructure (source : Text) (depth : Nat) : Node → Node
  | .list ⟨ordered, start, items, span⟩ =>
    .component (listComponent ordered (depth + 1)
      (restructureItems source (depth + 1)
        (ItemList.numbers source ⟨ordered, start, items, span⟩) items))
  | .blockquote children => .blockquote (restructureAll source depth children)
  | .component ⟨name, attributes, children⟩ =>
    .component ⟨name, attributes, restructureAll source depth children⟩
  | .paragraph content => .paragraph content
  | .heading h => .heading h
  | .codeBlock b => .codeBlock b
  | .table alignments headers rows => .table alignments headers rows
  | .html html => .html html
  | .horizontalRule => .horizontalRule

/-- The nodes with their lists as components. -/
def restructureAll (source : Text) (depth : Nat) : List Node → List Node
  | [] => []
  | n :: ns => n.restructure source depth :: restructureAll source depth ns

/-- The components of items, each with its number. -/
def restructureItems (source : Text) (level : Nat) :
    List (Option Text) → List ListItem → List Node
  | number :: numbers, ⟨children, variant, _⟩ :: items =>
    .component (itemComponent variant number level (restructureAll source level children))
      :: restructureItems source level numbers items
  | _, _ => []

end

/-- The nodes of a document with all lists as components. -/
def restructureLists (source : Text) (nodes : List Node) : List Node :=
  restructureAll source 0 nodes

mutual

/-- Whether all ordered items in a node start at whole characters of the source. -/
def Node.fitsSource (source : Text) : Node → Bool
  | .list ⟨ordered, _, items, _⟩ => itemsFitSource source ordered items
  | .blockquote children => allFitSource source children
  | .component ⟨_, _, children⟩ => allFitSource source children
  | _ => true

/-- Whether all ordered items in some nodes start at whole characters of the source. -/
def allFitSource (source : Text) : List Node → Bool
  | [] => true
  | n :: ns => n.fitsSource source && allFitSource source ns

/-- Whether items, and all ordered items in them, start at whole characters of the source. -/
def itemsFitSource (source : Text) (ordered : Bool) : List ListItem → Bool
  | [] => true
  | ⟨children, _, span⟩ :: items =>
    (!ordered || (lineAt? source span.start).isSome) && allFitSource source children
      && itemsFitSource source ordered items

end

end Weave
